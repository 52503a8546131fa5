import SteadyFetch.Proofs.Provenance

set_option autoImplicit false

/-! # Objects are read back

The text of an object reads as that object, so no two objects have the same text. A marker is that text
within another one, in a file: it is saved wherever a file can stand, whatever was there before, and loaded
again as it was saved (`ObjectRef.json_roundtrip`). -/

namespace SteadyFetch

namespace ObjectRef

theorem record_injective : Function.Injective record := by
  rintro ⟨bucket, name, generation⟩ ⟨bucket', name', generation'⟩ h
  have hnumber : Function.Injective (Json.Member.pair ∘ Json.Member.number "generation") := by
    intro g g' hpair
    simpa [Json.Member.pair, Json.Member.number] using hpair
  simp only [record, bucketMember, moreMembers, Json.object.injEq, List.map_cons, List.map_map,
    List.cons.injEq] at h
  obtain ⟨hbucket, hname, hgeneration⟩ := h
  simp only [Json.Member.pair, Json.Member.string, Prod.mk.injEq, Json.string.injEq,
    Option.some.injEq, true_and] at hbucket hname
  have hsame : generation = generation' := by
    simpa using congrArg List.head? (List.map_injective_iff.2 hnumber hgeneration)
  rw [hbucket, hname, hsame]

theorem json_injective : Function.Injective json := by
  intro o o' h
  have hparse := o.parse?_record
  rw [h, o'.parse?_record] at hparse
  exact (record_injective (Option.some.inj hparse)).symm

end ObjectRef

/-- The text of an object reads as that object, and no other object has this text. A marker of it is saved
    wherever a file can stand, whatever was there before, and loaded again as it was saved. -/
theorem ObjectRef.json_roundtrip {S : Type} (o : ObjectRef)
    (hrange : ∀ g ∈ o.generation, -(Word.limit63 : Int) ≤ g ∧ g < Word.limit63) {w : Site S} (path : String) :
    ObjectRef.parse? o.json = some o ∧ (∀ other : ObjectRef, other.json = o.json → other = o) ∧
      After (ResumeMarker.save Site.files ⟨o⟩ path) w fun result w' =>
        (result = .ok () ↔ w.tree.TakesFile (markerPath path)) ∧
          (result ≠ .ok () → w'.tree = w.tree) ∧
            (result = .ok () → w.tree.Touches [markerPath path] w'.tree ∧
              ∀ reads > (Utf8.encode (ResumeMarker.json ⟨o⟩)).length,
                After (ResumeMarker.load Site.files reads path) w' fun loaded w'' =>
                  w'' = w' ∧ loaded = some (.ok (some ⟨o⟩))) := by
  refine ⟨o.parse?_json hrange, fun other h => json_injective h, ?_⟩
  refine (Site.after_save_octets ⟨o⟩ path).imp ?_
  intro result w' ⟨htouches, hsaved⟩
  cases result with
  | error e =>
      obtain ⟨htree, hcannot⟩ := hsaved Site.grants_granted
      exact ⟨⟨nofun, fun htakes => absurd htakes hcannot⟩, fun _ => htree, nofun⟩
  | ok _ =>
      have hoctets : w'.tree.octetsAt? (markerPath path) = _ := hsaved
      have htakes := htouches.takesFile_iff.1 (FileTree.takesFile_of_octetsAt? hoctets)
      refine ⟨⟨fun _ => htakes, fun _ => rfl⟩, fun hfailed => absurd rfl hfailed, fun _ => ⟨htouches, ?_⟩⟩
      intro reads hreads
      refine Site.load_of_marks (.of_octets hoctets hrange) ?_
      intro raw hraw
      rw [hoctets, Option.mem_some_iff] at hraw
      rwa [← hraw]

/-- An object whose names hold whatever needs an escape, or a pair of surrogates. -/
def ObjectRef.awkward : ObjectRef := ⟨"\"b\\", "a/\x01\n\t\x7f\u2028😀\x7b", some (-0x8000000000000000)⟩

/-- The marker of an object is replaced by that of another one. -/
theorem ObjectRef.json_roundtrip_awkward :
    let w : Site Unit := ⟨.partway, ()⟩
    let marker : ResumeMarker := ⟨.awkward⟩
    ((∀ g ∈ awkward.generation, -(Word.limit63 : Int) ≤ g ∧ g < Word.limit63) ∧
      w.tree.octetsAt? (markerPath "f") ≠ none ∧ (marker.save Site.files "f" w).1 = .ok ()) ∧
    (ObjectRef.parse? awkward.json = some awkward ∧
      (∀ other : ObjectRef, other.json = awkward.json → other = awkward) ∧
        After (marker.save Site.files "f") w fun result w' =>
          (result = .ok () ↔ w.tree.TakesFile (markerPath "f")) ∧
            (result ≠ .ok () → w'.tree = w.tree) ∧
              (result = .ok () → w.tree.Touches [markerPath "f"] w'.tree ∧
                ∀ reads > (Utf8.encode marker.json).length,
                  After (ResumeMarker.load Site.files reads "f") w' fun loaded w'' =>
                    w'' = w' ∧ loaded = some (.ok (some marker)))) := by
  have hrange : ∀ g ∈ awkward.generation, -(Word.limit63 : Int) ≤ g ∧ g < Word.limit63 := by
    simp [awkward]
  exact ⟨⟨hrange, by decide +kernel⟩, json_roundtrip awkward hrange "f"⟩

end SteadyFetch
