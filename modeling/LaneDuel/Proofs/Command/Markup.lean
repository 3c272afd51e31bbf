/-
# LaneDuel.Proofs.Command.Markup -- escaped text never breaks its markup

A message is shown between an opening and a closing tag of one style.  Showing it fails where
it closes a tag that is not open; a message that was escaped holds no tags of its own, so it
never does.

* `Escaped` relates a text to its escaped forms, one constructor for each step of escaping.
* `Escaped.closes`: the parts of an escaped text and a closing tag are texts and at most that
  one tag.
* `Wraps.shown_escape`, `Wraps.shown_plain`: messages between the tags of a style are shown.
-/
import LaneDuel.Command.Markup
import LaneDuel.Proofs.Text.Integer
import Mathlib.Data.List.TakeWhile

namespace LaneDuel.Command.Markup

set_option autoImplicit false

/-! ## Tags -/

/-- A bracket of either kind. -/
def isBracket (d : Char) : Bool := d == ']' || d == '['

/-- What may stand between the brackets of a tag. -/
inductive IsTag : List Char → Prop where
  | mk (c : Char) (ds : List Char) (begins : startsTag c) (inner : ∀ d ∈ ds, isBracket d = false) :
    IsTag (c :: ds)

theorem find?_isBracket (cs : List Char) :
    cs.find? isBracket = (cs.dropWhile fun d => d != ']' && d != '[').head? := by
  rw [← List.find?_not_eq_head?_dropWhile]
  congr 1
  funext d
  simp [isBracket, bne]

theorem tagAt?_eq_none_of_ne {c : Char} (rest : List Char) (h : c ≠ '[') :
    tagAt? (c :: rest) = none := by
  unfold tagAt?
  split
  · cases ‹_ :: _ = _›
    exact absurd rfl h
  · rfl

/-- A tag begins at a bracket where the next bracket is a closing one. -/
theorem tagAt?_eq_none_iff {c : Char} {rest : List Char} :
    tagAt? ('[' :: c :: rest) = none ↔ (startsTag c → rest.find? isBracket ≠ some ']') := by
  rw [find?_isBracket, tagAt?]
  by_cases starts : startsTag c
  · rw [if_pos starts]
    split
    · simp [*]
    · rename_i other
      refine iff_of_true rfl fun _ closing => ?_
      obtain ⟨more, found⟩ := List.head?_eq_some_iff.mp closing
      exact other more found
  · simp [starts]

theorem tagAt?_eq_some {cs inside rest : List Char} (h : tagAt? cs = some (inside, rest)) :
    IsTag inside ∧ cs = '[' :: (inside ++ ']' :: rest) := by
  unfold tagAt? at h
  split at h
  · rename_i c tail
    split at h
    · rename_i starts
      split at h
      · rename_i more found
        cases h
        refine ⟨.mk c _ starts fun d inner => ?_, ?_⟩
        · simpa [isBracket] using List.mem_takeWhile_imp inner
        · rw [List.cons_append, ← found, List.takeWhile_append_dropWhile]
      · cases h
    · cases h
  · cases h

theorem tagAt?_of_isTag {inside : List Char} (h : IsTag inside) (rest : List Char) :
    tagAt? ('[' :: (inside ++ ']' :: rest)) = some (inside, rest) := by
  obtain ⟨c, ds, starts, inner⟩ := h
  have plain : ∀ d ∈ ds, (d != ']' && d != '[') = true := fun d mem => by
    simpa [isBracket] using inner d mem
  rw [List.cons_append, tagAt?, if_pos starts, List.dropWhile_append_of_pos plain,
    List.takeWhile_append_of_pos plain]
  simp

/-! ## Backslashes -/

/-- A number of backslashes. -/
abbrev slashes (n : Nat) : List Char := List.replicate n '\\'

theorem backslashes_append (n : Nat) {cs : List Char} (h : cs.head? ≠ some '\\') :
    backslashes (slashes n ++ cs) = n := by
  have stops : cs.takeWhile (· == '\\') = [] := by
    cases cs with
    | nil => rfl
    | cons c cs => exact List.takeWhile_cons_of_neg (by simpa using h)
  rw [backslashes, List.takeWhile_append_of_pos (by simp), stops]
  simp

theorem slashes_backslashes (cs : List Char) :
    slashes (backslashes cs) ++ cs.drop (backslashes cs) = cs ∧
      (cs.drop (backslashes cs)).head? ≠ some '\\' := by
  induction cs with
  | nil => exact ⟨rfl, nofun⟩
  | cons c cs ih =>
      by_cases h : c = '\\'
      · subst h
        have more : backslashes ('\\' :: cs) = backslashes cs + 1 := by
          simp [backslashes]
        rw [more, List.drop_succ_cons]
        exact ⟨congrArg ('\\' :: ·) ih.1, ih.2⟩
      · have none : backslashes (c :: cs) = 0 := by
          simp [backslashes, h]
        rw [none]
        exact ⟨rfl, fun same => h (Option.some.inj same)⟩

/-! ## Steps of cutting -/

theorem parts_of_ne_nil (fuel : Nat) (before : List Char) {cs : List Char} (h : cs ≠ []) :
    parts (fuel + 1) before cs =
      match tagAt? (cs.drop (backslashes cs)) with
      | some (inside, rest) =>
        textPart before.reverse ++ textPart (slashes (backslashes cs / 2))
          ++ (if backslashes cs % 2 = 1 then .text ('[' :: inside ++ [']']) else .tag inside)
          :: parts fuel [] rest
      | none =>
        if backslashes cs = 0 then parts fuel (cs.take 1 ++ before) (cs.drop 1)
        else parts fuel (slashes (backslashes cs) ++ before) (cs.drop (backslashes cs)) := by
  cases cs with
  | nil => exact absurd rfl h
  | cons c cs => rfl

theorem parts_tag (fuel n : Nat) (before : List Char) {inside : List Char} (h : IsTag inside)
    (rest : List Char) :
    parts (fuel + 1) before (slashes n ++ '[' :: (inside ++ ']' :: rest)) =
      textPart before.reverse ++ textPart (slashes (n / 2))
        ++ (if n % 2 = 1 then .text ('[' :: inside ++ [']']) else .tag inside)
        :: parts fuel [] rest := by
  rw [parts_of_ne_nil _ _ (by simp), backslashes_append n (by simp),
    List.drop_left' (by simp), tagAt?_of_isTag h]

theorem parts_char (fuel : Nat) (before : List Char) {c : Char} {cs : List Char} (h : c ≠ '\\')
    (untagged : tagAt? (c :: cs) = none) :
    parts (fuel + 1) before (c :: cs) = parts fuel (c :: before) cs := by
  have none : backslashes (c :: cs) = 0 := by simp [backslashes, h]
  rw [parts_of_ne_nil _ _ (by simp), none, List.drop_zero, untagged]
  rfl

theorem parts_slashes (fuel : Nat) (before : List Char) {n : Nat} {cs : List Char} (pos : 0 < n)
    (h : cs.head? ≠ some '\\') (untagged : tagAt? cs = none) :
    parts (fuel + 1) before (slashes n ++ cs) = parts fuel (slashes n ++ before) cs := by
  rw [parts_of_ne_nil _ _ (by simp [pos.ne']), backslashes_append n h, List.drop_left' (by simp),
    untagged]
  exact if_neg pos.ne'

/-! ## Escaped forms -/

/-- A text and an escaped form of its beginning. -/
inductive Escaped : List Char → List Char → Prop where
  | stop (cs : List Char) : Escaped cs []
  | tag (n : Nat) {inside rest marked : List Char} (h : IsTag inside) (more : Escaped rest marked) :
    Escaped (slashes n ++ '[' :: (inside ++ ']' :: rest))
      (slashes (2 * n + 1) ++ '[' :: (inside ++ ']' :: marked))
  | char {c : Char} {cs marked : List Char} (h : c ≠ '\\') (untagged : tagAt? (c :: cs) = none)
    (more : Escaped cs marked) : Escaped (c :: cs) (c :: marked)
  | run {n : Nat} {cs marked : List Char} (pos : 0 < n) (h : cs.head? ≠ some '\\')
    (untagged : tagAt? cs = none) (more : Escaped cs marked) :
    Escaped (slashes n ++ cs) (slashes n ++ marked)

theorem escaped_escapeFrom (fuel : Nat) (cs : List Char) : Escaped cs (escapeFrom fuel cs) := by
  fun_induction escapeFrom fuel cs with
  | case1 cs => exact .stop cs
  | case2 fuel => exact .stop []
  | case3 fuel c cs n inside rest found ih =>
      obtain ⟨tag, split⟩ := tagAt?_eq_some found
      rw [← (slashes_backslashes (c :: cs)).1, split, List.append_assoc]
      exact .tag n tag ih
  | case4 fuel c cs n untagged zero ih =>
      have plain := (slashes_backslashes (c :: cs)).2
      rw [show backslashes (c :: cs) = 0 from zero] at plain
      rw [zero] at untagged
      exact .char (fun same => plain (congrArg some same)) untagged ih
  | case5 fuel c cs n untagged some ih =>
      have step := Escaped.run (Nat.pos_of_ne_zero some) (slashes_backslashes (c :: cs)).2
        untagged ih
      rwa [(slashes_backslashes (c :: cs)).1] at step

/-- Escaping puts no closing bracket before the first opening one. -/
theorem Escaped.find?_ne {cs marked : List Char} (h : Escaped cs marked)
    (unclosed : cs.find? isBracket ≠ some ']') : marked.find? isBracket ≠ some ']' := by
  have passes : ∀ n, (slashes n).find? isBracket = none := fun n => by
    simp [isBracket]
  induction h with
  | stop cs => nofun
  | tag n h more ih =>
      rw [List.find?_append, passes]
      simp [isBracket]
  | @char c cs marked h untagged more ih =>
      by_cases bracket : isBracket c
      · rw [List.find?_cons_of_pos bracket] at unclosed ⊢
        exact unclosed
      · rw [List.find?_cons_of_neg bracket] at unclosed ⊢
        exact ih unclosed
  | @run n cs marked pos h untagged more ih =>
      rw [List.find?_append, passes, Option.none_or] at unclosed ⊢
      exact ih unclosed

/-- An escaped form begins as its text does where neither a backslash nor a tag begins it. -/
theorem Escaped.eq_nil_or_cons {cs marked : List Char} (h : Escaped cs marked)
    (plain : cs.head? ≠ some '\\') (untagged : tagAt? cs = none) :
    marked = [] ∨ ∃ c rest more, c ≠ '\\' ∧ cs = c :: rest ∧ marked = c :: more ∧
      Escaped rest more := by
  cases h with
  | stop cs => exact .inl rfl
  | tag n tag more =>
      cases n with
      | zero =>
          exact absurd (untagged.symm.trans (tagAt?_of_isTag tag _)) nofun
      | succ n => exact absurd rfl plain
  | char h _ more => exact .inr ⟨_, _, _, h, rfl, rfl, more⟩
  | run pos h _ more =>
      obtain ⟨n, rfl⟩ := Nat.exists_eq_succ_of_ne_zero pos.ne'
      exact absurd rfl plain

/-- Before a tag comes what an escaped form begins with, where that is no tag itself. -/
theorem Escaped.tagAt?_eq_none {c : Char} {cs marked : List Char} (h : Escaped cs marked)
    (untagged : tagAt? (c :: cs) = none) (m : Nat) (more : List Char) :
    tagAt? (c :: (marked ++ (slashes m ++ '[' :: more))) = none := by
  by_cases bracket : c = '['
  · subst bracket
    cases h with
    | stop cs =>
        cases m with
        | zero => exact tagAt?_eq_none_iff.mpr nofun
        | succ m => exact tagAt?_eq_none_iff.mpr nofun
    | tag n h more => exact tagAt?_eq_none_iff.mpr nofun
    | @char d cs marked h _ inner =>
        refine tagAt?_eq_none_iff.mpr fun begins => ?_
        have unclosed := inner.find?_ne (tagAt?_eq_none_iff.mp untagged begins)
        change (marked ++ _).find? isBracket ≠ _
        rw [List.find?_append]
        cases found : marked.find? isBracket with
        | none => simp [isBracket]
        | some b => simpa [found] using unclosed
    | @run n cs marked pos h _ inner =>
        obtain ⟨n, rfl⟩ := Nat.exists_eq_succ_of_ne_zero pos.ne'
        exact tagAt?_eq_none_iff.mpr nofun
  · exact tagAt?_eq_none_of_ne _ bracket

/-! ## Parts of escaped forms -/

/-- Texts, and at most one tag, which comes last. -/
inductive Closes (inside : List Char) : List Part → Prop where
  | nil : Closes inside []
  | tag : Closes inside [.tag inside]
  | text (cs : List Char) {ps : List Part} (more : Closes inside ps) :
    Closes inside (.text cs :: ps)

theorem Closes.textPart_append {inside : List Char} {ps : List Part} (h : Closes inside ps)
    (cs : List Char) : Closes inside (textPart cs ++ ps) := by
  unfold textPart
  split
  · exact h
  · exact .text cs h

theorem closes_zero {inside : List Char} (before cs : List Char) :
    Closes inside (parts 0 before cs) := by
  rw [parts, ← List.append_nil (textPart _)]
  exact Closes.nil.textPart_append _

section

variable {inside : List Char} (closing : IsTag inside)
include closing

theorem closes_closing (m fuel : Nat) (before : List Char) :
    Closes inside (parts fuel before (slashes m ++ '[' :: (inside ++ [']']))) := by
  cases fuel with
  | zero => exact closes_zero before _
  | succ fuel =>
      have ends : parts fuel [] [] = [] := by cases fuel <;> rfl
      rw [parts_tag fuel m before closing, ends, List.append_assoc]
      refine Closes.textPart_append (Closes.textPart_append ?_ _) _
      split
      · exact .text _ .nil
      · exact .tag

/-- An escaped form holds no tag, so that the closing tag is the only one.  The induction is on
the steps of escaping; backslashes before the closing tag come from an escaped form that ends in
some. -/
theorem Escaped.closes {cs marked : List Char} (h : Escaped cs marked) (m fuel : Nat)
    (before : List Char) :
    Closes inside (parts fuel before (marked ++ (slashes m ++ '[' :: (inside ++ [']'])))) := by
  induction h generalizing fuel before with
  | stop cs => exact closes_closing closing m fuel before
  | tag n tag more ih =>
      cases fuel with
      | zero => exact closes_zero before _
      | succ fuel =>
          simp only [List.append_assoc, List.cons_append]
          rw [parts_tag fuel _ before tag, if_pos (by omega), List.append_assoc]
          exact ((ih fuel []).text _).textPart_append _ |>.textPart_append _
  | char h untagged more ih =>
      cases fuel with
      | zero => exact closes_zero before _
      | succ fuel =>
          rw [List.cons_append, parts_char fuel before h (more.tagAt?_eq_none untagged m _)]
          exact ih fuel _
  | @run n cs marked pos h untagged more ih =>
      cases fuel with
      | zero => exact closes_zero before _
      | succ fuel =>
          obtain rfl | ⟨c, rest, marked, plain, rfl, rfl, inner⟩ :=
            more.eq_nil_or_cons h untagged
          · rw [List.append_nil, ← List.append_assoc, List.replicate_append_replicate]
            exact closes_closing closing (n + m) (fuel + 1) before
          · rw [List.append_assoc, List.cons_append, parts_slashes fuel before pos
              (by simpa using plain) (inner.tagAt?_eq_none untagged m _), ← List.cons_append]
            exact ih fuel _

end

/-! ## Messages between tags -/

/-- A style whose opening tag opens it, and whose closing tag closes it again. -/
structure Wraps (style : String) : Prop where
  opening : IsTag style.toList
  closing : IsTag ('/' :: style.toList)
  opens : follow [] style.toList = .ok [⟨style, []⟩]
  closes : follow [⟨style, []⟩] ('/' :: style.toList) = .ok []

/-- A message between the tags of a style. -/
def wrapped (style message : String) : String :=
  ("[" ++ style ++ "]") ++ message ++ ("[/" ++ style ++ "]")

theorem Closes.showParts {inside : List Char} {ps : List Part} (h : Closes inside ps)
    {opened left : List OpenTag} (closes : follow opened inside = .ok left) :
    ∃ text, showParts opened ps = .ok text := by
  induction h with
  | nil => exact ⟨[], rfl⟩
  | tag =>
      refine ⟨[], ?_⟩
      rw [Markup.showParts, closes]
      rfl
  | text cs more ih =>
      obtain ⟨text, shows⟩ := ih
      refine ⟨shownText cs ++ text, ?_⟩
      rw [Markup.showParts, shows]
      rfl

theorem Wraps.shown {style : String} (h : Wraps style) {message : String}
    {cs marked : List Char} {m : Nat} (escaped : Escaped cs marked)
    (same : message.toList = marked ++ slashes m) :
    ∃ text, shown (wrapped style message) = .ok text := by
  have chars : (wrapped style message).toList =
      slashes 0 ++ '[' :: (style.toList ++ ']' ::
        (marked ++ (slashes m ++ '[' :: ('/' :: style.toList ++ [']'])))) := by
    simp [wrapped, String.toList_append, same]
  obtain ⟨text, shows⟩ :=
    (escaped.closes h.closing m (wrapped style message).toList.length []).showParts h.closes
  refine ⟨text, ?_⟩
  rw [Markup.shown, if_pos (by simp [chars])]
  rw [congrArg (parts _ []) chars, parts_tag _ 0 [] h.opening]
  change (follow [] style.toList >>= fun opened => showParts opened _) = _
  rw [h.opens]
  exact shows

theorem toList_escape (message : String) :
    ∃ marked m, Escaped message.toList marked ∧ (escape message).toList = marked ++ slashes m := by
  have ends : (escape message).toList = escapeFrom (message.toList.length + 1) message.toList ∨
      (escape message).toList =
        escapeFrom (message.toList.length + 1) message.toList ++ slashes 1 := by
    simp only [escape]
    split
    · exact .inr String.toList_ofList
    · split
      · exact .inl String.toList_ofList
      · exact .inr String.toList_ofList
    · exact .inl String.toList_ofList
  obtain same | doubled := ends
  · exact ⟨_, 0, escaped_escapeFrom _ _, same.trans (List.append_nil _).symm⟩
  · exact ⟨_, 1, escaped_escapeFrom _ _, doubled⟩

/-- An escaped message is shown between the tags of any style. -/
theorem Wraps.shown_escape {style : String} (h : Wraps style) (message : String) :
    ∃ text, Markup.shown (wrapped style (escape message)) = .ok text := by
  obtain ⟨marked, m, escaped, same⟩ := toList_escape message
  exact h.shown escaped same

/-- Characters that neither begin a tag nor escape one are an escaped form of themselves. -/
theorem escaped_self {cs : List Char} (plain : ∀ c ∈ cs, c ≠ '[' ∧ c ≠ '\\') : Escaped cs cs := by
  induction cs with
  | nil => exact .stop []
  | cons c cs ih =>
      obtain ⟨opens, slash⟩ := plain c List.mem_cons_self
      exact .char slash (tagAt?_eq_none_of_ne cs opens) (ih fun d mem => plain d (.tail c mem))

/-- So is a message without opening brackets and backslashes. -/
theorem Wraps.shown_plain {style : String} (h : Wraps style) {message : String}
    (plain : ∀ c ∈ message.toList, c ≠ '[' ∧ c ≠ '\\') :
    ∃ text, Markup.shown (wrapped style message) = .ok text :=
  h.shown (m := 0) (escaped_self plain) (by simp)

/-! ## Styles that are colours -/

theorem ofWords_name {word : String} (small : Text.lower word = word) (named : Colour.isName word)
    (reserved : word ∉ ["on", "not", "link"]) (inert : Style.attribute? word = none) :
    Style.ofWords .plain [word] = .ok (some { Style.plain with colour := some word }) := by
  have one : Colour.isOne word = .ok true := by
    rw [Colour.isOne, small]
    simp only [named, Bool.or_true, Bool.true_or, if_true]
  simp only [List.mem_cons, List.not_mem_nil, or_false, not_or] at reserved
  obtain ⟨on, not, link⟩ := reserved
  unfold Style.ofWords
  rw [small]
  split
  case h_1 | h_4 => exact absurd rfl on
  case h_2 | h_5 => exact absurd rfl not
  case h_3 | h_6 => exact absurd rfl link
  case h_7 =>
    rw [inert]
    dsimp only
    rw [one]
    rfl

theorem name_of_isName {word : String} (single : Text.splitBlank word = [word])
    (small : Text.lower word = word) (named : Colour.isName word)
    (reserved : word ∉ ["on", "not", "link"]) (inert : Style.attribute? word = none) :
    Style.name word = .ok word := by
  have words : ({ Style.plain with colour := some word } : Style).words = [word] := by
    simp [Style.words, Style.plain]
  rw [Style.name, single, ofWords_name small named reserved inert]
  change Except.ok (if (Style.words _).isEmpty then _ else _) = _
  rw [words]
  simp

theorem ne_of_isLower {c d : Char} (h : c.isLower) (other : d.isLower = false) : c ≠ d := by
  rintro rfl
  exact absurd h (by simp [other])

theorem isBlankOrSeparator_of_isLower {c : Char} (h : c.isLower) :
    Text.isBlankOrSeparator c = false := by
  have within : 97 ≤ c.toNat ∧ c.toNat ≤ 122 := by
    change (decide (c.val ≥ 97) && decide (c.val ≤ 122)) = true at h
    simpa [UInt32.le_iff_toNat_le] using h
  simp only [Text.isBlankOrSeparator, Text.isBlank, Bool.or_eq_false_iff, Bool.and_eq_false_iff,
    decide_eq_false_iff_not, beq_eq_false_iff_ne]
  omega

theorem isBracket_of_isLower {c : Char} (h : c.isLower) : isBracket c = false := by
  simp [isBracket, ne_of_isLower h]

theorem splitValue_of_ne {cs : List Char} (h : ∀ c ∈ cs, c ≠ '=') : splitValue cs = (cs, []) := by
  have named : ∀ c ∈ cs, (c != '=') = true := fun c mem => by simp [h c mem]
  have whole : cs.takeWhile (· != '=') = cs := List.takeWhile_eq_self_iff.mpr named
  have rest : cs.dropWhile (· != '=') = [] := List.dropWhile_eq_nil_iff.mpr named
  rw [splitValue, whole, rest]
  rfl

section

variable {style : String} (letters : ∀ c ∈ style.toList, c.isLower)
  (name : Style.name style = .ok style)
include letters name

theorem follow_name (opened : List OpenTag) :
    follow opened style.toList = .ok (⟨style, []⟩ :: opened) := by
  rw [follow, splitValue_of_ne fun c mem => ne_of_isLower (letters c mem) (by decide)]
  dsimp only
  split
  · rename_i closing
    exact absurd (letters '/' (closing ▸ List.mem_cons_self)) (by decide)
  · rw [String.ofList_toList, name]
    rfl

theorem follow_closing (some : style.toList ≠ []) (opened : List OpenTag) :
    follow (⟨style, []⟩ :: opened) ('/' :: style.toList) = .ok opened := by
  have unequal : ∀ c ∈ '/' :: style.toList, c ≠ '=' := by
    rintro c (_ | ⟨_, mem⟩)
    · decide
    · exact ne_of_isLower (letters c mem) (by decide)
  have closed : closedBy style.toList (⟨style, []⟩ :: opened) =
      .ok (Option.some (⟨style, []⟩, opened)) := by
    rw [closedBy, if_neg (by simpa using some), String.ofList_toList, name]
    simp [Except.map, close]
  have untrimmed : Text.trimBy Text.isBlankOrSeparator style.toList = style.toList :=
    Text.trimBy_eq_self fun c mem => isBlankOrSeparator_of_isLower (letters c mem)
  rw [follow, splitValue_of_ne unequal]
  change (closedBy (Text.trimBy Text.isBlankOrSeparator style.toList) _ >>= _) = _
  rw [untrimmed, closed]
  change (if OpenTag.isReadable ⟨style, []⟩ then pure opened else _) = _
  rw [if_pos (by simp [OpenTag.isReadable])]
  rfl

end

/-- A name in small letters that is the name of its style makes tags of that style. -/
theorem wraps_of_name {style : String} (letters : ∀ c ∈ style.toList, c.isLower)
    (some : style.toList ≠ []) (name : Style.name style = .ok style) : Wraps style where
  opening := by
    obtain ⟨c, cs, chars⟩ := List.exists_cons_of_ne_nil some
    rw [chars] at letters ⊢
    refine .mk c cs ?_ fun d mem => isBracket_of_isLower (letters d (.tail c mem))
    simp [startsTag, letters c List.mem_cons_self]
  closing := .mk '/' _ (by decide) fun d mem => isBracket_of_isLower (letters d mem)
  opens := follow_name letters name []
  closes := follow_closing letters name some []

theorem wraps_red : Wraps "red" :=
  wraps_of_name (List.all_eq_true.mp (by decide)) (by decide) <|
    name_of_isName (by decide +kernel) (by decide +kernel) (by decide +kernel) (by decide)
      (by decide)

theorem wraps_green : Wraps "green" :=
  wraps_of_name (List.all_eq_true.mp (by decide)) (by decide) <|
    name_of_isName (by decide +kernel) (by decide +kernel) (by decide +kernel) (by decide)
      (by decide)

end LaneDuel.Command.Markup
