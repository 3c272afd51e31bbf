/-
# LaneDuel.Proofs.Catalog.Load -- how loading a catalog ends

Loading `Answers` where it gives a catalog, or a failure of the catalog's own that tells what
is wrong with it and where (`Failure.OfCatalog`); else it ends in some other failure.
`Catalog.Escapes` lists the contents of a file for which it does: bytes that are no text, a
document that is not read for the length of an integer or for its depth, and a pair, met before
any other that is wrong, whose entry lists the name of a call.  How deep is too deep depends on
the levels there is room for, whose number may be any.

* `ofMembers_eq_error_iff`, `answers_ofMembers_iff`: raw catalogs end in another failure at such
  a pair only.
* `ofFile_eq_error_iff`, `answers_ofFile_iff`: files do so for these contents only.
-/
import LaneDuel.Catalog.Load
import LaneDuel.Proofs.Schema.Calls
import LaneDuel.Proofs.Schema.Tenable

namespace LaneDuel

set_option autoImplicit false

/-- A failure that tells what is wrong with a catalog. -/
inductive Failure.OfCatalog : Failure → Prop where
  | entry (id : Int) (issues : List Schema.Issue) : OfCatalog (.misfitEntry id issues)
  | catalog (message : String) (id : Option Int) (path : Option String) :
    OfCatalog (.game (.catalog message id path))

namespace Catalog

/-- Loading gave a catalog, or it tells what is wrong with it. -/
def Answers (loaded : Except Failure Catalog) : Prop :=
  (∃ c, loaded = .ok c) ∨ ∃ f, loaded = .error f ∧ f.OfCatalog

theorem answers_iff {loaded : Except Failure Catalog} :
    Answers loaded ↔ ∀ f, ¬ (loaded = .error f ∧ ¬ f.OfCatalog) := by
  cases loaded with
  | ok c => simp [Answers]
  | error f => simp [Answers]

/-! ## Pairs -/

/-- The pair has a number, and an entry in which a call lists its name. -/
structure Derails (pair : String × Json) : Prop where
  counts : isRemark pair.1 = false
  numbered : ∃ id, readId pair.1 = .ok id
  lists : CardEffect.ListsName pair.2

theorem readId_eq_error {key : String} {f : Failure} (h : readId key = .error f) : f.OfCatalog := by
  simp only [readId] at h
  split at h
  · cases h
    exact .catalog _ _ _
  · split at h
    · cases h
      exact .catalog _ _ _
    · cases h

theorem readEntry_eq_error {id : Int} {v : Json} {f : Failure} (h : readEntry id v = .error f) :
    f.OfCatalog ∨ f = .wrongType ∧ CardEffect.ListsName v := by
  rw [readEntry] at h
  split at h
  · cases h
  · cases h
    exact .inl (.entry _ _)
  · cases h
    exact .inr ⟨rfl, CardEffect.read_eq_untenable_iff.mp ‹_›⟩

theorem addPair_eq_error {c : Catalog} {pair : String × Json} {f : Failure}
    (h : addPair c pair = .error f) : f.OfCatalog ∨ f = .wrongType ∧ Derails pair := by
  rw [addPair] at h
  split at h
  · cases h
  · rename_i counts
    obtain unnamed | ⟨id, named, h⟩ := Except.bind_eq_error h
    · exact .inl (readId_eq_error unnamed)
    · obtain unread | ⟨e, -, h⟩ := Except.bind_eq_error h
      · obtain own | ⟨wrong, lists⟩ := readEntry_eq_error unread
        · exact .inl own
        · exact .inr ⟨wrong, Bool.eq_false_iff.mpr counts, ⟨id, named⟩, lists⟩
      · cases h

theorem addPair_of_derails {pair : String × Json} (h : Derails pair) (c : Catalog) :
    addPair c pair = .error .wrongType := by
  obtain ⟨id, named⟩ := h.numbered
  have unread : readEntry id pair.2 = .error .wrongType := by
    rw [readEntry, CardEffect.read_eq_untenable_iff.mpr h.lists]
  rw [addPair, h.counts, if_neg Bool.false_ne_true, named]
  exact congrArg (· >>= fun e => pure (c.register id e)) unread

/-! ## Raw catalogs -/

/-- The pairs before some derailing pair make a catalog. -/
def Derailed (ms : List (String × Json)) : Prop :=
  ∃ before pair after c, ms = before ++ pair :: after ∧ ofMembers before = .ok c ∧ Derails pair

theorem ofMembers_eq_error {ms : List (String × Json)} {f : Failure} (h : ofMembers ms = .error f) :
    f.OfCatalog ∨ f = .wrongType ∧ Derailed ms := by
  obtain ⟨before, pair, after, c, rfl, ran, failed⟩ := foldlM_eq_error h
  obtain own | ⟨wrong, derails⟩ := addPair_eq_error failed
  · exact .inl own
  · exact .inr ⟨wrong, before, pair, after, c, rfl, ran, derails⟩

theorem ofMembers_of_derailed {ms : List (String × Json)} (h : Derailed ms) :
    ofMembers ms = .error .wrongType := by
  obtain ⟨before, pair, after, c, rfl, ran, derails⟩ := h
  rw [ofMembers, List.foldlM_append]
  change (ofMembers before >>= fun c => (pair :: after).foldlM addPair c) = _
  rw [ran]
  change (pair :: after).foldlM addPair c = _
  rw [List.foldlM_cons, addPair_of_derails derails]
  rfl

theorem not_ofCatalog_wrongType : ¬ Failure.OfCatalog .wrongType := nofun

/-- **Raw catalogs.**  A raw catalog ends in a failure that is none of catalogs exactly where
it is derailed. -/
theorem ofMembers_eq_error_iff {ms : List (String × Json)} {f : Failure} :
    ofMembers ms = .error f ∧ ¬ f.OfCatalog ↔ f = .wrongType ∧ Derailed ms := by
  constructor
  · rintro ⟨failed, other⟩
    exact (ofMembers_eq_error failed).resolve_left other
  · rintro ⟨rfl, derailed⟩
    exact ⟨ofMembers_of_derailed derailed, not_ofCatalog_wrongType⟩

theorem answers_ofMembers_iff {ms : List (String × Json)} :
    Answers (ofMembers ms) ↔ ¬ Derailed ms := by
  simp only [answers_iff, ofMembers_eq_error_iff, not_and, forall_eq]

/-! ## Files -/

section Files

variable {levels : Nat}

/-- The document in the text of a file, as far as it is read. -/
def documentOf (levels : Nat) (text : String) : Except Json.SyntaxError Json :=
  Json.parseChars levels (Text.unifyLines text.toList)

/-- The contents of a file with which loading ends in a failure that is none of catalogs. -/
inductive Escapes (levels : Nat) (content : ByteArray) : Failure → Prop where
  /-- The bytes are no text. -/
  | notText (broken : String.fromUTF8? content = none) : Escapes levels content .notText
  /-- An integer in the document has too many digits. -/
  | tooManyDigits {text : String} {count : Nat} (decoded : String.fromUTF8? content = some text)
    (long : documentOf levels text = .error (.tooManyDigits count)) :
    Escapes levels content (.tooManyDigits count)
  /-- The document is nested too deeply. -/
  | tooDeep {text : String} (decoded : String.fromUTF8? content = some text)
    (deep : documentOf levels text = .error .tooDeep) : Escapes levels content .tooDeep
  /-- A call has a list or an object for its name. -/
  | derailed {text : String} {ms : List (String × Json)}
    (decoded : String.fromUTF8? content = some text) (parsed : documentOf levels text = .ok (.obj ms))
    (derailed : Derailed ms) : Escapes levels content .wrongType

theorem Escapes.not_ofCatalog {content : ByteArray} {f : Failure} (h : Escapes levels content f) :
    ¬ f.OfCatalog := by
  cases h <;> nofun

theorem Escapes.ofFile {content : ByteArray} {f : Failure} (h : Escapes levels content f)
    (path : String) :
    ofFile levels path (.bytes content) = .error f := by
  cases h with
  | notText broken => simp only [Catalog.ofFile, broken]
  | tooManyDigits decoded long =>
      rw [documentOf] at long
      simp only [Catalog.ofFile, decoded, ofText, long]
  | tooDeep decoded deep =>
      rw [documentOf] at deep
      simp only [Catalog.ofFile, decoded, ofText, deep]
  | derailed decoded parsed derailed =>
      rw [documentOf] at parsed
      simp only [Catalog.ofFile, decoded, ofText, parsed, ofMembers_of_derailed derailed]

theorem escapes_of_ofText {content : ByteArray} {path text : String} {f : Failure}
    (decoded : String.fromUTF8? content = some text) (failed : ofText levels path text = .error f)
    (other : ¬ f.OfCatalog) : Escapes levels content f := by
  simp only [ofText] at failed
  split at failed
  · cases failed
    exact absurd (.catalog _ _ _) other
  · cases failed
    exact .tooManyDigits decoded ‹_›
  · cases failed
    exact .tooDeep decoded ‹_›
  · obtain ⟨rfl, derailed⟩ := ofMembers_eq_error_iff.mp ⟨failed, other⟩
    exact .derailed decoded ‹_› derailed
  · cases failed
    exact absurd (.catalog _ _ _) other

/-- **Files.**  Loading a file ends in a failure that is none of catalogs exactly for the
contents that escape. -/
theorem ofFile_eq_error_iff {path : String} {content : ByteArray} {f : Failure} :
    ofFile levels path (.bytes content) = .error f ∧ ¬ f.OfCatalog ↔ Escapes levels content f := by
  constructor
  · rintro ⟨failed, other⟩
    simp only [ofFile] at failed
    split at failed
    · exact escapes_of_ofText ‹_› failed other
    · cases failed
      exact .notText ‹_›
  · exact fun escapes => ⟨escapes.ofFile path, escapes.not_ofCatalog⟩

theorem answers_ofFile_iff {path : String} {content : ByteArray} :
    Answers (ofFile levels path (.bytes content)) ↔ ∀ f, ¬ Escapes levels content f := by
  simp only [answers_iff, ofFile_eq_error_iff]

end Files

end Catalog

end LaneDuel
