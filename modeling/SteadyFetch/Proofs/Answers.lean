import SteadyFetch.Http.Opener
import SteadyFetch.Proofs.Form

set_option autoImplicit false

/-! # Services and their answers

What a service has to say to a request (`due`) depends on the request alone, as the service reads it,
and on the version it holds. An `Answer` is what it sends: it may carry any other fields, in any order
and in any spelling of their names. A transfer `Reports` an answer if it hands over its lines and its
body in any chunks, or breaks off somewhere on the way.

From that follows what an open sees: the frames of a transfer are those of the answer's head and as much
of its body as came (`Reports.frames_eq`), and reading the head gives back what the service wrote. -/

namespace SteadyFetch

/-! ## What a request asks for -/

namespace HttpRequest

/-- The generations that the query of a request names. -/
def generations (r : HttpRequest) : List String :=
  ((Form.pairs (r.target.query.getD [])).filter fun pair => pair.1 == "generation").map (·.2)

/-- First and last octet that a range names, the last one only if it is bounded. -/
def readSpan? (value : List Char) : Option (Nat × Option Nat) := do
  if !"bytes=".toList.isPrefixOf value then none
  let (first, last) ← splitOnce '-' (value.drop 6)
  let first ← Numeral.magnitude? first
  if last.isEmpty then return (first, none)
  return (first, some (← Numeral.magnitude? last))

/-- The octets that a request asks for; none for all of them. -/
def span? (r : HttpRequest) : Option (Nat × Option Nat) := do
  let header ← r.headers.find? fun header => lowerAscii header.1.toList == "range".toList
  readSpan? header.2.toList

end HttpRequest

/-! ## What a service answers -/

/-- What a service has to say to a request. -/
structure Due where
  status : Nat
  /-- The value of the `Content-Range` header. -/
  contentRange : Option String
  /-- The body; none where it does not matter. -/
  body : Option Bytes
  deriving DecidableEq

/-- Offset after the last octet that a service gives of content of some length. -/
def spanEnd (last : Option Nat) (length : Nat) : Nat :=
  match last with
  | some last => min (last + 1) length
  | none => length

theorem spanEnd_le (last : Option Nat) (length : Nat) : spanEnd last length ≤ length := by
  cases last with
  | none => exact Nat.le_refl _
  | some last => exact Nat.min_le_right _ _

/-- What a service that holds `content` as its generation `live` has to say. -/
def due (live : Int) (content : Bytes) (r : HttpRequest) : Due :=
  if r.generations.any fun text => text != live.repr then ⟨404, none, none⟩
  else
    match r.span? with
    | none => ⟨200, none, some content⟩
    | some (first, last) =>
      if content.length ≤ first then ⟨416, some s!"bytes */{content.length}", none⟩
      else
        let stop := spanEnd last content.length
        ⟨206, some s!"bytes {first}-{stop - 1}/{content.length}", some (content.extract first stop)⟩

/-- A whole answer. -/
structure Answer where
  status : Nat
  reason : String
  fields : List (String × String)
  body : Bytes

namespace Answer

/-- Whether a field has the given name, in any case of its letters. -/
def hasName (name : String) (field : String × String) : Bool :=
  lowerAscii field.1.toList == name.toList

/-- The values of the fields of the given name. -/
def values (a : Answer) (name : String) : List String :=
  (a.fields.filter (hasName name)).map fun field => trimText field.2

/-- The lines of the head, as they stand on the wire. -/
def lines (a : Answer) : List Bytes :=
  Utf8.encode s!"HTTP/1.1 {a.status} {a.reason}\r\n"
    :: a.fields.map (fun field => Utf8.encode s!"{field.1}: {field.2}\r\n") ++ [Utf8.encode "\r\n"]

/-- Whether a text can be the name of a field: it holds no separator and no blank. -/
def IsFieldName (name : String) : Prop :=
  ∀ c ∈ name.toList, c ≠ ':' ∧ c ≠ '/' ∧ isBlank c = false

/-- The answer of a service that holds `content` as its generation `live` to a request: it says what is
    due, every generation it reports is the one it holds, and it reports it at least with every
    success. -/
structure Fits (a : Answer) (live : Int) (content : Bytes) (r : HttpRequest) : Prop where
  fieldNames : ∀ field ∈ a.fields, IsFieldName field.1
  status_eq : a.status = (due live content r).status
  contentRange_eq : a.values "content-range" = (due live content r).contentRange.toList
  body_eq : ∀ body ∈ (due live content r).body, a.body = body
  generation_eq : ∀ text ∈ a.values "x-goog-generation", text = live.repr
  reported : a.status < 300 → a.values "x-goog-generation" ≠ []

end Answer

/-- A transfer of an answer: it breaks off before the body begins, or hands over the head and then the
    body, in any chunks, whole unless the transfer fails. -/
inductive Transfer.Reports (t : Transfer) (a : Answer) : Prop where
  | broken (lines : List Bytes) (code : TransferCode) (events_eq : t.events = lines.map .line)
      (failure_eq : t.failure = some code)
  | delivered (chunks : List Bytes)
      (events_eq : t.events = a.lines.map .line ++ chunks.map .chunk)
      (status_eq : t.status = a.status) (body_isPrefix : chunks.flatten <+: a.body)
      (whole : t.failure = none → chunks.flatten = a.body)

/-! ## Reading heads -/

theorem PendingHead.add_encode (h : PendingHead) (text : String) :
    h.add (Utf8.encode text)
      = match statusOfLine? (String.ofList (trimEnd text.toList)) with
        | some status => ⟨status, []⟩
        | none =>
          if (String.ofList (trimEnd text.toList)).isEmpty then h
          else { h with lines := h.lines ++ [String.ofList (trimEnd text.toList)] } := by
  unfold add
  generalize hread : Utf8.decode? (Utf8.encode text) = read
  rw [Utf8.decode?_encode] at hread
  subst hread
  rfl

theorem statusOfLine?_ofList (cs : List Char) :
    statusOfLine? (String.ofList ("HTTP/1.1".toList ++ ' ' :: cs))
      = match words cs with
        | code :: _ => Numeral.u32? code
        | [] => none := by
  have hversion : ∀ c ∈ "HTTP/1.1".toList, isBlank c = false := by
    intro c hc
    have hall : "HTTP/1.1".toList.all (fun c => !isBlank c) = true := by decide
    simpa using List.all_eq_true.1 hall c hc
  unfold statusOfLine?
  simp only [String.toList_ofList]
  rw [words_append hversion (by decide) (by decide), if_pos (by rfl)]
  cases words cs with
  | nil => rfl
  | cons code rest => rfl

/-- The status line tells the status, and begins a new head. -/
theorem PendingHead.add_statusLine (h : PendingHead) {status : Nat} (hstatus : status < Word.limit32)
    (reason : String) :
    h.add (Utf8.encode s!"HTTP/1.1 {status} {reason}\r\n") = ⟨status, []⟩ := by
  have hdigits : ∀ c ∈ status.repr.toList, isBlank c = false :=
    fun c hc => isBlank_of_isDigit (Numeral.isDigit_of_mem_repr hc)
  have htext : (s!"HTTP/1.1 {status} {reason}\r\n").toList
      = "HTTP/1.1".toList ++ ' ' :: (status.repr.toList ++ ' ' :: (reason.toList ++ "\r\n".toList)) := by
    show ("HTTP/1.1 " ++ status.repr ++ " " ++ reason ++ "\r\n").toList = _
    simp [String.toList_append]
  rw [add_encode, htext]
  generalize reason.toList ++ "\r\n".toList = rest
  -- trimming stops at the last digit at the latest
  rcases List.eq_nil_or_concat status.repr.toList with hnil | ⟨init, last, hlast⟩
  · rw [Nat.toList_repr] at hnil
    exact absurd hnil Nat.toDigits_ne_nil
  · rw [List.concat_eq_append] at hlast
    have htrim : trimEnd ("HTTP/1.1".toList ++ ' ' :: (status.repr.toList ++ ' ' :: rest))
        = "HTTP/1.1".toList ++ ' ' :: (status.repr.toList ++ trimEnd (' ' :: rest)) := by
      have hsplit : ∀ l : List Char, "HTTP/1.1".toList ++ ' ' :: (status.repr.toList ++ l)
          = ("HTTP/1.1".toList ++ ' ' :: init) ++ last :: l := by
        intro l
        simp [hlast]
      rw [hsplit, hsplit, trimEnd_append_cons (hdigits last (by simp [hlast]))]
    have hwords : ∃ others, words (status.repr.toList ++ trimEnd (' ' :: rest))
        = status.repr.toList :: others := by
      have hne : status.repr.toList ≠ [] := by simp [hlast]
      rcases List.prefix_cons_iff.1 (trimEnd_isPrefix (' ' :: rest)) with hnil | ⟨l, hl, -⟩
      · rw [hnil, List.append_nil]
        exact ⟨[], wordsFrom_eq_singleton hdigits hne⟩
      · rw [hl]
        exact ⟨words l, words_append hdigits hne (by decide) l⟩
    obtain ⟨others, hothers⟩ := hwords
    rw [htrim, statusOfLine?_ofList, hothers]
    simp only
    rw [Numeral.u32?, Numeral.below?_repr hstatus]

namespace Answer

/-- The line of a field, as it is kept. -/
def fieldLine (field : String × String) : String :=
  String.ofList (field.1.toList ++ ':' :: trimEnd (' ' :: (field.2.toList ++ "\r\n".toList)))

theorem statusOfLine?_fieldLine {field : String × String} (h : IsFieldName field.1) :
    statusOfLine? (fieldLine field) = none := by
  unfold statusOfLine? fieldLine
  simp only [String.toList_ofList]
  rw [if_neg]
  intro hinit
  obtain ⟨rest, hrest⟩ := List.isPrefixOf_iff_prefix.1 hinit
  have hname : ∀ c ∈ field.1.toList, (c != ':') = true := fun c hc => by simpa using (h c hc).1
  -- what stands before the colon would hold a slash
  have hbefore := congrArg (List.takeWhile (· != ':')) hrest
  rw [List.takeWhile_append_of_pos hname,
    List.takeWhile_append_of_pos (List.all_eq_true.1 (by decide))] at hbefore
  have hslash : '/' ∈ field.1.toList := by
    have hmem : '/' ∈ "HTTP/".toList ++ rest.takeWhile (· != ':') :=
      List.mem_append_left _ (by decide)
    rw [hbefore] at hmem
    simpa using hmem
  exact (h '/' hslash).2.1 rfl

theorem add_field (h : PendingHead) {field : String × String} (hname : IsFieldName field.1) :
    h.add (Utf8.encode s!"{field.1}: {field.2}\r\n") = { h with lines := h.lines ++ [fieldLine field] } := by
  have htext : (s!"{field.1}: {field.2}\r\n").toList
      = field.1.toList ++ ':' :: (' ' :: (field.2.toList ++ "\r\n".toList)) := by
    show (field.1 ++ ": " ++ field.2 ++ "\r\n").toList = _
    simp [String.toList_append]
  have hline : String.ofList (trimEnd (s!"{field.1}: {field.2}\r\n").toList) = fieldLine field := by
    rw [htext, trimEnd_append_cons (by decide)]
    rfl
  have hne : (fieldLine field).isEmpty = false := by
    rw [String.isEmpty_eq_false_iff]
    intro hempty
    have hlist := congrArg String.toList hempty
    simp [fieldLine] at hlist
  rw [PendingHead.add_encode, hline, statusOfLine?_fieldLine hname]
  simp [hne]

theorem add_emptyLine (h : PendingHead) : h.add (Utf8.encode "\r\n") = h := by
  rw [PendingHead.add_encode, trimEnd_eq_nil (List.all_eq_true.1 (by decide))]
  rfl

/-- The head that the lines of an answer make, whatever came before. -/
theorem foldl_add_lines (a : Answer) (hnames : ∀ field ∈ a.fields, IsFieldName field.1)
    (hstatus : a.status < Word.limit32) (h : PendingHead) :
    a.lines.foldl PendingHead.add h = ⟨a.status, a.fields.map fieldLine⟩ := by
  have hfields : ∀ (fields : List (String × String)) (h : PendingHead),
      (∀ field ∈ fields, IsFieldName field.1) →
      (fields.map fun field => Utf8.encode s!"{field.1}: {field.2}\r\n").foldl PendingHead.add h
        = { h with lines := h.lines ++ fields.map fieldLine } := by
    intro fields
    induction fields with
    | nil => simp
    | cons field fields ih =>
        intro h hnames
        rw [List.map_cons, List.foldl_cons, add_field h (hnames field List.mem_cons_self),
          ih _ fun other hother => hnames other (List.mem_cons_of_mem _ hother)]
        simp
  rw [lines, List.cons_append, List.foldl_cons, List.foldl_append, PendingHead.add_statusLine h hstatus,
    hfields a.fields _ hnames, List.foldl_cons, List.foldl_nil, add_emptyLine]
  simp

theorem headerOfLine?_fieldLine {field : String × String} (h : IsFieldName field.1) :
    headerOfLine? (fieldLine field) = some (field.1.toList, trim field.2.toList) := by
  have hcolon : ':' ∉ field.1.toList := fun hc => (h ':' hc).1 rfl
  have hend : ∀ (c : Char) (cs : List Char), isBlank c = true → trim (cs ++ [c]) = trim cs := by
    intro c cs hc
    rw [← trim_trimEnd, show trimEnd (cs ++ [c]) = trimEnd cs from
      List.rdropWhile_concat_pos isBlank cs c hc, trim_trimEnd]
  have hvalue : trim (trimEnd (' ' :: (field.2.toList ++ "\r\n".toList))) = trim field.2.toList := by
    rw [trim_trimEnd, trim_cons_blank (by decide),
      show field.2.toList ++ "\r\n".toList = field.2.toList ++ ['\r'] ++ ['\n'] by simp,
      hend _ _ (by decide), hend _ _ (by decide)]
  rw [headerOfLine?, fieldLine, String.toList_ofList, splitOnce_append hcolon, Option.map_some]
  simp only
  rw [trim_eq_self fun c hc => (h c hc).2.2, hvalue]

/-- What is read of the lines of a name is read of the values of that name. -/
theorem findSome?_fieldLines {α : Type} (fields : List (String × String))
    (hnames : ∀ field ∈ fields, IsFieldName field.1) (name : String) (f : List Char → Option α) :
    ((fields.map fieldLine).findSome? fun line => do
      let header ← headerOfLine? line
      if isNamed name header then f header.2 else none)
    = ((fields.filter (hasName name)).map fun field => trimText field.2).findSome?
        fun value => f value.toList := by
  induction fields with
  | nil => rfl
  | cons field fields ih =>
      rw [List.map_cons, List.findSome?_cons, ih fun other hother =>
        hnames other (List.mem_cons_of_mem _ hother),
        headerOfLine?_fieldLine (hnames field List.mem_cons_self)]
      by_cases hname : hasName name field = true
      · rw [List.filter_cons_of_pos hname, List.map_cons, List.findSome?_cons]
        have hnamed : isNamed name (field.1.toList, trim field.2.toList) = true := hname
        simp only [Option.bind_eq_bind, Option.bind_some, hnamed, if_true, trimText, String.toList_ofList]
      · rw [List.filter_cons_of_neg hname]
        have hnamed : isNamed name (field.1.toList, trim field.2.toList) = false :=
          Bool.eq_false_iff.2 hname
        simp only [Option.bind_eq_bind, Option.bind_some, hnamed, Bool.false_eq_true, if_false]

variable {a : Answer}

theorem generationOf?_fieldLines (hnames : ∀ field ∈ a.fields, IsFieldName field.1) :
    generationOf? (a.fields.map fieldLine)
      = (a.values "x-goog-generation").findSome? fun value => Numeral.i64? value.toList :=
  findSome?_fieldLines a.fields hnames "x-goog-generation" Numeral.i64?

theorem contentRangeOf?_fieldLines (hnames : ∀ field ∈ a.fields, IsFieldName field.1) :
    contentRangeOf? (a.fields.map fieldLine)
      = ((a.values "content-range").head?.bind fun value => ContentRange.parse? value.toList) := by
  have hvalue := findSome?_fieldLines a.fields hnames "content-range" fun value => some value
  unfold contentRangeOf?
  rw [hvalue, values]
  cases (a.fields.filter (hasName "content-range")).map fun field => trimText field.2 with
  | nil => rfl
  | cons value values => rfl

end Answer

end SteadyFetch
