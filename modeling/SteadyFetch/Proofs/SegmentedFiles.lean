import SteadyFetch.Checksum.OfFile
import SteadyFetch.Command.Segment
import SteadyFetch.Proofs.Hashing
import SteadyFetch.Proofs.Settings
import SteadyFetch.Proofs.Sites

set_option autoImplicit false

/-! # Segments and checksums of files

A file is read in two ways: into buffers that are then cut, and in pieces of one size that extend a
checksum. Either way reads may come back short. `Files.Reads` says what every read has to do with what is
still to come of a file, and each of the loops is followed by an induction on the reads it may still make.
Buffers come out full whatever the reads were (`after_fill`), so they are the pieces of the file
(`after_readBuffers`), and cutting them gives what cutting the file gives. -/

namespace SteadyFetch

variable {W η : Type}

/-! ## Reading files -/

namespace Files

/-- What reads have to do with the octets that are still to come of an open file, `before` telling which
    those are: a read gives the next of them, as many as it likes, but none only at the end. -/
structure Reads (files : Files (StateM W) η) (before : η → Bytes → W → Prop) : Prop where
  after_read : ∀ {file rest w} count, before file rest w → 0 < count →
    After (files.read file count) w fun result w' =>
      ∃ got left, rest = got ++ left ∧ got.length ≤ count ∧ (got = [] → rest = []) ∧
        result.1 = .ok got ∧ before result.2 left w'

/-- Whether whoever opens a path and reads on comes by certain octets. -/
def Serves (files : Files (StateM W) η) (path : String) (content : Bytes) (w : W) : Prop :=
  ∃ before, files.Reads before ∧ After (files.openRead path) w fun opened w' =>
    ∃ file, opened = .ok file ∧ before file content w'

variable {files : Files (StateM W) η} {before : η → Bytes → W → Prop}

namespace Reads

theorem after_fill (h : files.Reads before) (reads : Nat) {file : η} {rest : Bytes} {room : Nat}
    (got : List Bytes) {w : W} (hbefore : before file rest w) (hreads : min room rest.length < reads) :
    After (Segmenting.fill files reads file room got) w fun result w' =>
      ∃ file', result = some (.ok (got.reverse.flatten ++ rest.take room), file') ∧
        before file' (rest.drop room) w' := by
  induction reads generalizing file rest room got w with
  | zero => omega
  | succ reads ih =>
      unfold Segmenting.fill
      by_cases hroom : room = 0
      · rw [if_pos hroom, After.pure_iff, hroom]
        exact ⟨file, by simp, hbefore⟩
      rw [if_neg hroom]
      refine After.bind (h.after_read room hbefore (Nat.pos_of_ne_zero hroom)) ?_
      rintro ⟨result, file'⟩ w₁ ⟨next, left, rfl, hshort, hend, rfl, hleft⟩
      cases next with
      | nil =>
          -- nothing more comes: the file is at its end
          have hnil : left = [] := hend rfl
          subst hnil
          refine ⟨file', ?_, ?_⟩
          · show some (Except.ok got.reverse.flatten, file') = _
            simp
          · rwa [List.append_nil, List.drop_nil]
      | cons b bs =>
          have hless : min (room - (b :: bs).length) left.length < reads := by
            simp only [List.length_append, List.length_cons] at hreads hshort ⊢
            omega
          refine (ih ((b :: bs) :: got) hleft hless).imp ?_
          rintro result w₂ ⟨file'', rfl, hrest⟩
          refine ⟨file'', ?_, ?_⟩
          · rw [List.take_append, List.take_of_length_le hshort]
            simp
          · rwa [List.drop_append, List.drop_of_length_le hshort, List.nil_append]

/-- The buffers are the pieces of what is still to come. -/
theorem after_readBuffers (h : files.Reads before) {limit size : Nat} (hsize : 0 < size)
    (buffers : Nat) {file : η} {rest : Bytes} (full : List Bytes) {w : W} (hbefore : before file rest w)
    (hlimit : rest.length < limit) (hbuffers : rest.length < buffers) :
    After (Segmenting.readBuffers files limit size buffers file full) w fun result _ =>
      result = some (.ok (full.reverse ++ Bytes.pieces size rest)) := by
  induction buffers generalizing file rest full w with
  | zero => omega
  | succ buffers ih =>
      unfold Segmenting.readBuffers
      refine After.bind (h.after_fill limit [] hbefore (by omega)) ?_
      rintro _ w₁ ⟨file', rfl, hleft⟩
      simp only [List.reverse_nil, List.flatten_nil, List.nil_append]
      by_cases hend : rest = []
      · subst hend
        simp
      · have hpos : 0 < rest.length := List.length_pos_iff.2 hend
        have hread : rest.take size ≠ [] := by
          rw [Ne, List.take_eq_nil_iff]
          rintro (hzero | hnil)
          · omega
          · exact hend hnil
        have hshorter : (rest.drop size).length < rest.length := by
          rw [List.length_drop]
          omega
        rw [Bytes.pieces_of_ne_nil hsize hend]
        obtain ⟨b, bs, hpiece⟩ := List.exists_cons_of_ne_nil hread
        rw [hpiece]
        refine (ih ((b :: bs) :: full) hleft (by omega) (by omega)).imp ?_
        rintro _ _ rfl
        rw [List.reverse_cons, List.append_assoc]
        rfl

theorem after_appendFile (h : files.Reads before) (path : String) (reads : Nat) {file : η}
    {rest : Bytes} (sofar : Bytes) {w : W} (hbefore : before file rest w) (hreads : rest.length < reads) :
    After (Checksum.appendFile files path reads file (.of sofar)) w fun result _ =>
      result = some (.ok (.of (sofar ++ rest))) := by
  induction reads generalizing file rest sofar w with
  | zero => omega
  | succ reads ih =>
      unfold Checksum.appendFile
      refine After.bind (h.after_read pieceSize hbefore (by decide)) ?_
      rintro ⟨result, file'⟩ w₁ ⟨next, left, rfl, -, hend, rfl, hleft⟩
      cases next with
      | nil =>
          have hnil : left = [] := hend rfl
          subst hnil
          rw [List.append_nil, List.append_nil]
          rfl
      | cons b bs =>
          have hless : left.length < reads := by
            simp only [List.length_append, List.length_cons] at hreads
            omega
          have hnext : After (Checksum.appendFile files path reads file' (.of (sofar ++ b :: bs))) w₁
              fun result _ => result = some (.ok (.of (sofar ++ b :: bs ++ left))) := ih _ hleft hless
          rw [← Checksum.append_of, List.append_assoc] at hnext
          exact hnext

end Reads

/-- The checksum of a file is that of its octets. -/
theorem Serves.after_ofFile {path : String} {content : Bytes} {w : W}
    (h : files.Serves path content w) {reads : Nat} (hreads : content.length < reads) :
    After (Checksum.ofFile files reads path) w fun result _ => result = some (.ok (.of content)) := by
  obtain ⟨before, hfiles, hopen⟩ := h
  unfold Checksum.ofFile
  refine After.bind hopen ?_
  rintro _ w₁ ⟨file, rfl, hbefore⟩
  exact hfiles.after_appendFile path reads [] hbefore hreads

end Files

theorem Site.serves {S : Type} {w : Site S} {path : String} {content : Bytes}
    (h : w.tree.octetsAt? path = some content) : Site.files.Serves path content w := by
  obtain ⟨number, hfile, rfl⟩ := Option.map_eq_some_iff.1 h
  refine ⟨fun file rest w => ∃ number, file.number = some number ∧
    rest = (w.tree.content number).drop file.offset, ⟨?_⟩, ?_⟩
  · rintro ⟨_, atEnd, offset⟩ rest w count ⟨number, rfl, rfl⟩ hcount
    refine (after_fileRead number offset count atEnd).imp ?_
    rintro ⟨fault | bs, file⟩ w' ⟨htree, hread⟩
    · exact absurd grants_granted hread.2
    · obtain ⟨rfl, rfl⟩ := hread
      refine ⟨_, _, (List.take_append_drop count _).symm, List.length_take_le _ _, ?_, rfl, number, rfl, ?_⟩
      · intro hnil
        exact (List.take_eq_nil_iff.1 hnil).resolve_left (by omega)
      · rw [htree, ← List.drop_drop, List.length_take, ← List.drop_eq_drop_min]
  · refine After.imp (Q := fun opened w' => w' = w ∧ opened = w.tree.openRead path) ⟨rfl, rfl⟩ ?_
    rintro opened w' ⟨rfl, rfl⟩
    cases hopen : w'.tree.openRead path with
    | error fault =>
        rw [FileTree.fileAt?_of_openRead_error hopen] at hfile
        exact absurd hfile (by simp)
    | ok file =>
        obtain rfl := FileTree.openRead_spec hopen
        exact ⟨_, rfl, number, hfile, by simp⟩

/-! ## The segments of a file -/

namespace Segment

/-- The segment of octets that were read at once. -/
def ofBytes (blockSize : Nat) (checksums : Bool) (bs : Bytes) : Segment :=
  ⟨[bs], bs.length, if checksums then some (.of bs) else none, bs.length % blockSize == 0⟩

/-- The segment without the places where buffers ended. -/
def whole (s : Segment) : Segment := { s with parts := [s.bytes] }

@[simp] theorem bytes_ofBytes (blockSize : Nat) (checksums : Bool) (bs : Bytes) :
    (ofBytes blockSize checksums bs).bytes = bs := List.append_nil _

end Segment

namespace Segmenting

/-- Whether segments get checksums. -/
def hasChecksums (config : Config) (args : SegmentArgs) : Bool := config.crc32c && !args.withoutChecksums

/-- The segments of a file that is read at once. -/
def segmentsOf (config : Config) (args : SegmentArgs) (content : Bytes) : List Segment :=
  (Bytes.pieces (args.maxSegmentSize.getD config.maxSegmentSize) content).map
    (Segment.ofBytes config.blockSize (hasChecksums config args))

end Segmenting

namespace Segmenter

/-- Where buffers end does not show in whole segments. -/
theorem after_segment_whole (s : Segmenter (StateM W)) {checksums : Bool}
    (hhasher : s.hasher = if checksums then .crc32c else .disabled) (buffers : List Bytes) (w : W) :
    After (s.segment buffers) w fun segments _ =>
      segments.map Segment.whole
        = (Bytes.pieces s.maxSize buffers.flatten).map (Segment.ofBytes s.blockSize checksums) := by
  have hchecksums : After (s.segment buffers) w fun segments _ =>
      ∀ segment ∈ segments, segment.checksum = if checksums then some (.of segment.bytes) else none := by
    cases checksums with
    | true => exact after_segment_crc32c hhasher buffers w
    | false => exact after_segment_disabled hhasher buffers w
  refine (hchecksums.and (s.after_segment buffers w)).imp ?_
  rintro segments _ ⟨hchecksum, hcuts⟩
  rw [← hcuts.bytes_eq, List.map_map]
  refine List.map_congr_left fun segment hsegment => ?_
  have hlength := hcuts.measured segment hsegment
  have haligned : segment.aligned = (segment.length % s.blockSize == 0) := by
    rw [Bool.eq_iff_iff, hcuts.aligned_iff segment hsegment, beq_iff_eq, Nat.dvd_iff_mod_eq_zero]
  rw [Segment.whole, hchecksum segment hsegment, haligned, hlength]
  rfl

end Segmenter

namespace Segmenting

variable {config : Config} {args : SegmentArgs}

theorem pos_getD {given : Option Nat} {default : Nat} (hdefault : 0 < default) (hgiven : given ≠ some 0) :
    0 < given.getD default := by
  cases given with
  | none => exact hdefault
  | some size => exact Nat.pos_of_ne_zero fun hzero => hgiven (congrArg some hzero)

theorem segmenter_eq_ok (hconfig : config.validate = .ok ()) (hbuffer : 0 < args.bufferSize)
    (hsize : args.maxSegmentSize ≠ some 0) :
    ∃ s : Segmenter (StateM W), segmenter config args = .ok s ∧
      s.maxSize = args.maxSegmentSize.getD config.maxSegmentSize ∧ s.blockSize = config.blockSize ∧
      s.hasher = if hasChecksums config args then .crc32c else .disabled := by
  obtain ⟨hmax, hblock, -⟩ := (Config.validate_eq_ok_iff config).1 hconfig
  have hpos := pos_getD hmax hsize
  refine ⟨⟨if hasChecksums config args then .crc32c else .disabled, _, _, hpos, hblock⟩, ?_, rfl, rfl, rfl⟩
  unfold segmenter Segmenter.make
  simp only [Nat.ne_of_gt hbuffer, Nat.ne_of_gt hpos, if_false, hpos, hblock, dif_pos]
  rfl

/-- **How a file is read does not show in its segments, and their checksums make that of the file.** For
    every file and all settings that pass the check, segmenting succeeds whatever positive size the
    buffers have and however short reads come back. The octets of the segments, taken together, are the
    file; octets, lengths, checksums and alignment are those of its consecutive pieces. Joined in order,
    the checksums are what computing the checksum of the file by itself gives. -/
theorem run_eq_segmentsOf {files : Files (StateM W) η} {limit : Nat} {content : Bytes}
    (hconfig : config.validate = .ok ()) (hsize : args.maxSegmentSize ≠ some 0)
    (hlimit : content.length < limit) :
    (segmentsOf config args content).flatMap Segment.bytes = content ∧
    (∀ bufferSize w, 0 < bufferSize → files.Serves args.path content w →
      After (run files limit config { args with bufferSize }) w fun result _ =>
        ∃ segments, result = some (.ok segments) ∧
          segments.map Segment.whole = segmentsOf config args content) ∧
    (hasChecksums config args = true → ∃ checksums : List Checksum,
      (segmentsOf config args content).map Segment.checksum = checksums.map some ∧
      ∀ w, files.Serves args.path content w →
        After (Checksum.ofFile files limit args.path) w fun result _ =>
          result = some (.ok (checksums.foldl Checksum.concat .empty))) := by
  obtain ⟨hmax, -⟩ := (Config.validate_eq_ok_iff config).1 hconfig
  have hpos := pos_getD hmax hsize
  refine ⟨?_, fun bufferSize w hbuffer hserves => ?_, fun hon => ?_⟩
  · rw [segmentsOf, List.flatMap_map]
    simp only [Segment.bytes_ofBytes, List.flatMap_id', Bytes.flatten_pieces hpos]
  · obtain ⟨s, hmake, hmaxSize, hblockSize, hhasher⟩ : ∃ s : Segmenter (StateM W),
        segmenter config { args with bufferSize } = .ok s ∧ _ := segmenter_eq_ok hconfig hbuffer hsize
    obtain ⟨before, hfiles, hopen⟩ := hserves
    unfold run
    rw [hmake]
    refine After.bind hopen ?_
    rintro _ w₁ ⟨file, rfl, hbefore⟩
    refine After.bind (hfiles.after_readBuffers hbuffer limit [] hbefore hlimit hlimit) ?_
    rintro _ w₂ rfl
    refine After.bind (s.after_segment_whole hhasher _ w₂) ?_
    rintro segments w₃ hwhole
    refine ⟨segments, rfl, ?_⟩
    rw [hwhole, List.reverse_nil, List.nil_append, Bytes.flatten_pieces hbuffer, hmaxSize, hblockSize]
    rfl
  · refine ⟨(Bytes.pieces (args.maxSegmentSize.getD config.maxSegmentSize) content).map .of, ?_, ?_⟩
    · rw [segmentsOf, List.map_map, List.map_map, hon]
      rfl
    · intro w hserves
      rw [← Checksum.of_nil, Checksum.foldl_concat_of, List.nil_append, Bytes.flatten_pieces hpos]
      exact hserves.after_ofFile hlimit

/-- A file of ten octets that is read three at a time and cut into segments of four. -/
theorem run_eq_segmentsOf_digits :
    let content := Utf8.encode "0123456789"
    let args : SegmentArgs := { path := "f", maxSegmentSize := some 4, bufferSize := 3 }
    let w : Site Unit := ⟨FileTree.empty.plant ["f"] content, ()⟩
    Config.default.validate = .ok () ∧ args.maxSegmentSize ≠ some 0 ∧ content.length < 11 ∧
      Site.files.Serves args.path content w ∧
      (∃ segments, (run Site.files 11 .default args w).1 = some (.ok segments) ∧
        segments.map Segment.whole = segmentsOf .default args content) ∧
      ∃ checksums : List Checksum,
        (segmentsOf .default args content).map Segment.checksum = checksums.map some ∧
        (Checksum.ofFile Site.files 11 args.path w).1
          = some (.ok (checksums.foldl Checksum.concat .empty)) := by
  intro content args w
  have hserves : Site.files.Serves args.path content w := Site.serves (by decide +kernel)
  have hvalid : Config.default.validate = .ok () := rfl
  have hsize : args.maxSegmentSize ≠ some 0 := by decide
  have hlimit : content.length < 11 := by decide
  have hfiles := @run_eq_segmentsOf _ _ _ args (Site.files : Files (StateM (Site Unit)) OpenFile) _ _ hvalid
    hsize hlimit
  obtain ⟨-, hruns, hsums⟩ := hfiles
  obtain ⟨checksums, hchecksums, hsum⟩ := hsums rfl
  exact ⟨hvalid, hsize, hlimit, hserves, hruns 3 w (by decide) hserves, checksums, hchecksums,
    hsum w hserves⟩

end Segmenting

end SteadyFetch
