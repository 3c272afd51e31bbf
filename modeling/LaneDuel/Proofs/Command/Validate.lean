/-
# LaneDuel.Proofs.Command.Validate -- how `validate` ends

On a file, `validate` answers with the exit code 0 where the catalog in it loads, and with 1
where loading fails in a failure of the catalog's own: the report is always shown, whatever
text the failure quotes.  In the contents that escape, `validate` ends in the failure itself.

* `refuse_of_ofCatalog`, `report_catalog`: the two reports are shown.
* `validate_ends`: how raw catalogs, files and `validate` end.

Poles: `loading_escapes` (a raw catalog with a list for the name of a call, and a file of one
byte that is no text) and `broken_bytes_escape` (`validate` on that file).
-/
import LaneDuel.Command.Report
import LaneDuel.Proofs.Catalog.Load
import LaneDuel.Proofs.Command.Markup

namespace LaneDuel

set_option autoImplicit false

/-! ## Characters of filled texts -/

namespace Text

theorem mem_of_char_mem_piecesFrom {c : Char} {name : Option (List Char)} {cs : List Char}
    (h : .char c ∈ piecesFrom name cs) : c ∈ cs := by
  fun_induction piecesFrom name cs with
  | case1 rest ih => exact .tail _ (ih h)
  | case2 name rest ih =>
      cases h with
      | tail _ h => exact .tail _ (ih h)
  | case3 d rest _ ih =>
      cases h with
      | head => exact .head _
      | tail _ h => exact .tail _ (ih h)
  | case4 name d rest _ ih => exact .tail _ (ih h)
  | case5 => cases h

theorem mem_of_fill {values : List (String × String)} {ps : List Piece} {parts : List String}
    (h : ps.mapM (Piece.fill values) = some parts) {c : Char}
    (mem : c ∈ parts.flatMap String.toList) :
    .char c ∈ ps ∨ ∃ v ∈ values, c ∈ v.2.toList := by
  induction ps generalizing parts with
  | nil =>
      cases h
      cases mem
  | cons p ps ih =>
      rw [List.mapM_cons] at h
      obtain ⟨part, filled, h⟩ := Option.bind_eq_some_iff.mp h
      obtain ⟨rest, others, h⟩ := Option.bind_eq_some_iff.mp h
      cases h
      rw [List.flatMap_cons, List.mem_append] at mem
      obtain here | later := mem
      · cases p with
        | char d =>
            cases filled
            rw [String.toList_singleton, List.mem_singleton] at here
            exact .inl (here ▸ .head _)
        | gap name =>
            obtain ⟨before, after, rfl, -⟩ := List.lookup_eq_some_iff.mp filled
            exact .inr ⟨_, List.mem_append_right before (.head _), here⟩
      · exact (ih others later).imp_left (.tail _)

/-- A filled text is made of characters of its template and of its values. -/
theorem mem_of_mem_fill? {template text : String} {values : List (String × String)}
    (h : fill? template values = some text) {c : Char} (mem : c ∈ text.toList) :
    c ∈ template.toList ∨ ∃ v ∈ values, c ∈ v.2.toList := by
  obtain ⟨parts, filled, rfl⟩ := Option.map_eq_some_iff.mp h
  rw [String.toList_join] at mem
  exact (mem_of_fill filled mem).imp_left mem_of_char_mem_piecesFrom

end Text

theorem Phrasebook.mem_of_mem_text {b : Phrasebook} {key template : String}
    {values : List (String × String)} (h : b.template? key = some template) {c : Char}
    (mem : c ∈ (b.text key values).toList) :
    c ∈ template.toList ∨ ∃ v ∈ values, c ∈ v.2.toList := by
  simp only [text, h] at mem
  split at mem
  · exact .inl mem
  · cases filled : Text.fill? template values with
    | none => exact .inl (by simpa [filled] using mem)
    | some text => exact Text.mem_of_mem_fill? filled (by simpa [filled] using mem)

namespace Command

open Catalog (Answers Derailed Escapes)

/-! ## Reports -/

theorem wrapped_red (message : String) :
    "[red]" ++ message ++ "[/red]" = Markup.wrapped "red" message := by
  rw [Markup.wrapped, show "[" ++ "red" ++ "]" = "[red]" by decide,
    show "[/" ++ "red" ++ "]" = "[/red]" by decide]

theorem wrapped_green (message : String) :
    "[green]" ++ message ++ "[/green]" = Markup.wrapped "green" message := by
  rw [Markup.wrapped, show "[" ++ "green" ++ "]" = "[green]" by decide,
    show "[/" ++ "green" ++ "]" = "[/green]" by decide]

theorem printed_of_shown {marked : String} (h : ∃ text, Markup.shown marked = .ok text) :
    ∃ out, printed marked = .ok out := by
  obtain ⟨text, shows⟩ := h
  exact ⟨Layout.printedLines text, by rw [printed, shows]; rfl⟩

theorem complaint_of_ofCatalog (b : Phrasebook) {f : Failure} (h : f.OfCatalog) :
    ∃ text, complaint b f = .ok text := by
  cases h with
  | entry id issues => exact ⟨_, rfl⟩
  | catalog message id path =>
      obtain ⟨text, same⟩ : ∃ text, (GameError.catalog message id path).textIn b = some text := by
        rw [GameError.textIn]
        split
        · exact ⟨_, rfl⟩
        · exact ⟨message, rfl⟩
      exact ⟨text, by rw [complaint, same]⟩

/-- A failure of a catalog's own is reported with the exit code 1. -/
theorem refuse_of_ofCatalog (b : Phrasebook) {f : Failure} (h : f.OfCatalog) :
    ∃ out, refuse b f = .ok ⟨1, out⟩ := by
  obtain ⟨text, complains⟩ := complaint_of_ofCatalog b h
  obtain ⟨out, shows⟩ := printed_of_shown
    (Markup.wraps_red.shown_escape (b.text "cli.invalid" [("error", text)]))
  refine ⟨.lines out, ?_⟩
  rw [← wrapped_red] at shows
  rw [refuse, complains]
  simp only [bind, Except.bind, shows]
  rfl

theorem refuse_of_escapes (b : Phrasebook) {levels : Nat} {content : ByteArray} {f : Failure}
    (h : Escapes levels content f) : refuse b f = .error f := by
  cases h <;> rfl

theorem valid_plain {l : Locale} {template : String}
    (h : (Phrasebook.standard l).template? "cli.valid" = some template) :
    ∀ c ∈ template.toList, c ≠ '[' ∧ c ≠ '\\' := by
  have all : template.toList.all (fun c => c != '[' && c != '\\') = true := by
    cases l <;> cases h <;> decide
  intro c mem
  simpa using List.all_eq_true.mp all c mem

/-- A catalog that loads is reported with the exit code 0. -/
theorem report_catalog (l : Locale) (given : Option String) (c : Catalog) :
    ∃ out, report (.standard l) (.validate given) (.ok c) = .ok ⟨0, out⟩ := by
  obtain ⟨template, found⟩ : ∃ template, (Phrasebook.standard l).template? "cli.valid" =
      some template := by
    cases l <;> exact ⟨_, rfl⟩
  have plain : ∀ d ∈ ((Phrasebook.standard l).text "cli.valid" [("count", toString c.size)]).toList,
      d ≠ '[' ∧ d ≠ '\\' := by
    intro d mem
    obtain fixed | ⟨_, counted, digit⟩ := Phrasebook.mem_of_mem_text found mem
    · exact valid_plain found d fixed
    · cases List.mem_singleton.mp counted
      have digit : d.isDigit = true :=
        Nat.isDigit_of_mem_toDigits (by decide) (by decide) (Nat.toList_repr ▸ digit)
      exact ⟨Text.ne_of_isDigit digit rfl, Text.ne_of_isDigit digit rfl⟩
  obtain ⟨out, shows⟩ := printed_of_shown (Markup.wraps_green.shown_plain plain)
  refine ⟨.lines out, ?_⟩
  rw [← wrapped_green] at shows
  simp only [report, bind, Except.bind, shows]
  rfl

/-! ## Runs -/

/-- The invocation asks, in a locale that is known, whether the file at a path loads. -/
structure Validates (s : Settings) (files : Files) (i : Invocation) (path : String)
    (content : ByteArray) : Prop where
  ordered : ∃ given, i.order = .validate given
  named : i.catalogPath s = some path
  there : files.look (Text.normalPath path) = .bytes content
  spoken : ∃ l : Locale, Vocabulary.read? (i.localeName s) = some l

/-- How a run ends, by how loading the file did. -/
inductive Ends (levels : Nat) (content : ByteArray) : Except Failure Catalog → Except Failure Report → Prop where
  | valid (c : Catalog) (out : Output) : Ends levels content (.ok c) (.ok ⟨0, out⟩)
  | invalid {f : Failure} (h : f.OfCatalog) (out : Output) :
    Ends levels content (.error f) (.ok ⟨1, out⟩)
  | escaped {f : Failure} (h : Escapes levels content f) :
    Ends levels content (.error f) (.error f)

section

variable {s : Settings} {files : Files} {i : Invocation} {path : String} {content : ByteArray}

theorem Validates.ends (h : Validates s files i path content) (levels : Nat) (initial : Locale) :
    Ends levels content (Catalog.ofFile levels (Text.normalPath path) (.bytes content))
      (run (.standard initial) s levels files i) := by
  obtain ⟨given, ordered⟩ := h.ordered
  obtain ⟨l, spoken⟩ := h.spoken
  have ran : run (.standard initial) s levels files i =
      report (.standard l) (.validate given)
        (Catalog.ofFile levels (Text.normalPath path) (.bytes content)) := by
    simp only [run, Phrasebook.use, spoken, Settings.catalog, h.named, h.there, ordered]
    rfl
  rw [ran]
  cases loaded : Catalog.ofFile levels (Text.normalPath path) (.bytes content) with
  | ok c =>
      obtain ⟨out, reported⟩ := report_catalog l given c
      exact reported ▸ .valid c out
  | error f =>
      by_cases own : f.OfCatalog
      · obtain ⟨out, refused⟩ := refuse_of_ofCatalog (.standard l) own
        rw [report, refused]
        exact .invalid own out
      · have escapes := Catalog.ofFile_eq_error_iff.mp ⟨loaded, own⟩
        rw [report, refuse_of_escapes (.standard l) escapes]
        exact .escaped escapes

end

section

variable {levels : Nat} {content : ByteArray} {loaded : Except Failure Catalog}
  {ended : Except Failure Report}

theorem Ends.exit_zero_iff (h : Ends levels content loaded ended) :
    (∃ out, ended = .ok ⟨0, out⟩) ↔ ∃ c, loaded = .ok c := by
  cases h <;> simp

theorem Ends.exit_one_iff (h : Ends levels content loaded ended) :
    (∃ out, ended = .ok ⟨1, out⟩) ↔ ∃ f, loaded = .error f ∧ f.OfCatalog := by
  cases h with
  | valid c out => simp
  | invalid own out => simp [own]
  | escaped escapes => simp [escapes.not_ofCatalog]

theorem Ends.error_iff (h : Ends levels content loaded ended) {f : Failure}
    (fails : Escapes levels content f → loaded = .error f) :
    ended = .error f ↔ Escapes levels content f := by
  cases h with
  | valid c out => exact iff_of_false nofun fun escapes => nomatch fails escapes
  | invalid own out =>
      refine iff_of_false nofun fun escapes => ?_
      cases fails escapes
      exact escapes.not_ofCatalog own
  | escaped escapes =>
      constructor
      · rintro ⟨⟩
        exact escapes
      · intro other
        cases fails other
        rfl

end

/-- **How loading and `validate` end.**  Loading a raw catalog answers unless it is derailed, and
loading a file answers unless its bytes escape; else it ends in the failure named there.  On a
file `validate` exits with 0 exactly where the catalog loads, with 1 exactly where loading fails
in a failure of its own, and ends in another failure exactly for the contents that escape.  All
of this holds whatever number of levels there is room for. -/
theorem validate_ends (levels : Nat) (ms : List (String × Json)) (content : ByteArray) :
    (Answers (Catalog.ofMembers ms) ↔ ¬ Derailed ms) ∧
    (Derailed ms → Catalog.ofMembers ms = .error .wrongType) ∧
    (∀ path, Answers (Catalog.ofFile levels path (.bytes content)) ↔
      ∀ f, ¬ Escapes levels content f) ∧
    (∀ path f, Escapes levels content f →
      Catalog.ofFile levels path (.bytes content) = .error f) ∧
    ∀ s files i path initial, Validates s files i path content →
      let loaded := Catalog.ofFile levels (Text.normalPath path) (.bytes content)
      let ended := run (.standard initial) s levels files i
      ((∃ out, ended = .ok ⟨0, out⟩) ↔ ∃ c, loaded = .ok c) ∧
      ((∃ out, ended = .ok ⟨1, out⟩) ↔ ∃ f, loaded = .error f ∧ f.OfCatalog) ∧
      ∀ f, ended = .error f ↔ Escapes levels content f := by
  refine ⟨Catalog.answers_ofMembers_iff, Catalog.ofMembers_of_derailed,
    fun path => Catalog.answers_ofFile_iff, fun path f escapes => escapes.ofFile path, ?_⟩
  intro s files i path initial validates
  have ends := validates.ends levels initial
  exact ⟨ends.exit_zero_iff, ends.exit_one_iff, fun f => ends.error_iff fun escapes =>
    escapes.ofFile _⟩

end Command

namespace Example

open Command

/-- One byte that begins no character. -/
def brokenBytes : ByteArray := ⟨#[0xff]⟩

theorem escapes_broken (levels : Nat) : Catalog.Escapes levels brokenBytes .notText :=
  .notText (by decide +kernel)

/-- A file with that byte. -/
def brokenFiles : Files := .ofList [("c", brokenBytes)]

def environmentless : Settings := .ofEnvironment []

def validateBroken : Invocation := ⟨none, none, .validate (some "c")⟩

theorem pathSteps_c : Text.pathSteps "c" = ["c"] := by
  have whole : "c".splitOn "/" = ["c"] := by
    rw [String.splitOn, if_neg (by decide), String.splitOnAux, if_neg (by decide),
      if_neg (by decide), String.splitOnAux, if_pos (by decide)]
    decide
  rw [Text.pathSteps, whole]
  decide

theorem validates_broken : Validates environmentless brokenFiles validateBroken "c" brokenBytes where
  ordered := ⟨_, rfl⟩
  named := rfl
  there := by
    have normal : Text.normalPath "c" = "c" := by
      rw [Text.normalPath, pathSteps_c]
      rfl
    rw [normal]
    simp only [Files.look, pathSteps_c, brokenFiles, Files.ofList, Place.ofPath, List.map]
    rfl
  spoken := ⟨.chinese, rfl⟩

/-- An entry with a list for the name of its call. -/
def listing : Json :=
  .obj [("name", .str "lister"), ("type", .str "support"),
    ("effects", .arr [.obj [("atom", .arr [])]])]

/-- Loading does not always answer: neither over a raw catalog with a list for the name of a
call, nor over a file whose bytes are no text. -/
theorem loading_escapes :
    (¬ ∀ ms, Catalog.Answers (Catalog.ofMembers ms)) ∧
      ∀ levels, ¬ ∀ path content, Catalog.Answers (Catalog.ofFile levels path (.bytes content)) := by
  constructor
  · intro all
    have lists : CardEffect.ListsName listing :=
      ⟨_, rfl, _, List.mem_singleton_self _, _, rfl, rfl⟩
    have derailed : Catalog.Derailed [("1", listing)] :=
      ⟨[], _, [], .empty, rfl, rfl, ⟨rfl, ⟨1, rfl⟩, lists⟩⟩
    exact Catalog.answers_ofMembers_iff.mp (all _) derailed
  · intro levels all
    exact Catalog.answers_ofFile_iff.mp (all "c" brokenBytes) _ (escapes_broken levels)

/-- Validating bytes that are no text ends in a failure, not in an exit code. -/
theorem broken_bytes_escape :
    Validates environmentless brokenFiles validateBroken "c" brokenBytes ∧
      run (.standard .chinese) environmentless 900 brokenFiles validateBroken = .error .notText := by
  obtain ⟨-, -, -, -, ends⟩ := validate_ends 900 [] brokenBytes
  obtain ⟨-, -, fails⟩ := ends _ _ _ _ .chinese validates_broken
  exact ⟨validates_broken, (fails _).mpr (escapes_broken 900)⟩

end Example

end LaneDuel
