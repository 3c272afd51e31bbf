/-
# LaneDuel.Proofs.Loose.Skipping -- calls that are passed over

A library that lacks some names builds exactly the calls whose names it has
(`Library.build_lacking`): the parameters of a checked call are named after those that its
kind takes, so no call is a misfit.  What cannot be built is reported and passed over.

An entry and the same entry without such calls are played side by side.  The first run tells
one report for each call that the second has not, and else the same (`skipping`); a call that
is passed over changes nothing but the log, and every other call is steady
(`Engine.runCalls_together`).
-/
import LaneDuel.Proofs.Engine.Composition
import LaneDuel.Proofs.Loose.Course
import LaneDuel.Proofs.Loose.Parallel.Moves

namespace LaneDuel

set_option autoImplicit false

/-! ## Reports in a journal -/

namespace Journal

/-- The entry reports a call that could not be built. -/
def Entry.isReport (e : Entry) : Bool := e.level == .error && e.key == "engine.unknown_atom"

theorem isReport_ofEvent (b : Phrasebook) (e : Event) : (Entry.ofEvent b e).isReport = e.isReport := by
  cases e with
  | notice n => cases n <;> rfl
  | trace t => rfl

theorem spoken_of_isReport {e : Event} (report : e.isReport = true) : Spoken e = true := by
  cases e with
  | notice n => cases n <;> rfl
  | trace t => cases report

theorem reports_entries (b : Phrasebook) (es : List Event) :
    (entries b false es).filter Entry.isReport
      = (es.filter Event.isReport).map (Entry.ofEvent b) := by
  have absorbed : ∀ e : Event, ((Entry.ofEvent b e).isReport && Spoken e) = e.isReport := by
    intro e
    rw [isReport_ofEvent]
    cases report : e.isReport with
    | false => rfl
    | true => exact spoken_of_isReport report
  rw [entries_untraced, List.filter_map, List.filter_filter]
  simp only [Function.comp_apply, absorbed]

theorem others_entries (b : Phrasebook) (es : List Event) :
    (entries b false es).filter (fun e => !e.isReport)
      = (es.filter fun e => !e.isReport && Spoken e).map (Entry.ofEvent b) := by
  rw [entries_untraced, List.filter_map, List.filter_filter]
  simp only [Function.comp_apply, isReport_ofEvent]

end Journal

namespace Loose

/-! ## Libraries that lack names -/

namespace Library

/-- The standard library without some names. -/
def lacking (names : List String) : Library := names.foldl unregister .standard

theorem lookup_standard (name : String) :
    standard.names.lookup name = (Vocabulary.read? name : Option AtomKind).map some := by
  have general : ∀ ks : List AtomKind, (ks.map fun k => (k.word, some k)).lookup name
      = (ks.find? fun k => k.word == name).map some := by
    intro ks
    induction ks with
    | nil => rfl
    | cons k ks ih =>
        rw [List.map_cons, List.lookup_cons, List.find?_cons, ih, BEq.comm]
        cases k.word == name <;> rfl
  exact general AtomKind.all

theorem lookup_word (k : AtomKind) : standard.names.lookup k.word = some (some k) := by
  have read : Vocabulary.read? k.word = some k := Vocabulary.read?_word k
  rw [lookup_standard, read]
  rfl

/-- The full library builds every checked call as it is. -/
theorem build_standard (a : Atom) : standard.build (.known a) = .ok (.checked a) := by
  rw [build, kind?, Call.name, lookup_word]
  simp only [Option.join_some, Meaning.build, retell_kind]

theorem lookup_lacking (names : List String) (name : String) :
    (lacking names).names.lookup name
      = if name ∈ names then none else standard.names.lookup name := by
  have general : ∀ l : Library, (names.foldl unregister l).names.lookup name
      = if name ∈ names then none else l.names.lookup name := by
    induction names with
    | nil => exact fun l => (if_neg List.not_mem_nil).symm
    | cons gone names ih =>
        intro l
        rw [List.foldl_cons, ih, unregister, lookup_filter]
        by_cases last : name ∈ names <;> by_cases first : name = gone <;> simp [last, first]
  exact general .standard

variable (names : List String)

theorem build_lacking_known (a : Atom) :
    (lacking names).build (.known a)
      = if (lacking names).has (Call.known a).name then .ok (.checked a) else .error .unknown := by
  rw [build, has, kind?, Call.name, lookup_lacking, lookup_word]
  by_cases gone : a.kind.word ∈ names
  · simp only [if_pos gone]
    rfl
  · simp only [if_neg gone, Option.join_some, Meaning.build, retell_kind]
    rfl

theorem lookup_unknown {name : String} (apart : ∀ k : AtomKind, k.word ≠ name) :
    (lacking names).names.lookup name = none := by
  have wordless : (Vocabulary.read? name : Option AtomKind) = none := by
    cases read : (Vocabulary.read? name : Option AtomKind) with
    | none => rfl
    | some k => exact absurd (Vocabulary.word_of_read? read) (apart k)
  rw [lookup_lacking, lookup_standard, wordless]
  exact ite_self none

/-- Exactly the calls whose names it has can be built. -/
theorem build_lacking {call : Call} (apart : call.Apart) :
    if (lacking names).has call.name then ∃ x, (lacking names).build call = .ok x
    else (lacking names).build call = .error .unknown := by
  cases call with
  | known a =>
      rw [build_lacking_known]
      split
      · exact ⟨_, rfl⟩
      · rfl
  | unknown name ms =>
      have lost := lookup_unknown names apart
      rw [has, build, kind?, Call.name, lost]
      rfl

/-- The call is told what its kind takes: every required parameter, and no other than the
required and the optional ones. -/
def Suits (a : Atom) : Prop :=
  let told := (Call.known a).parameterNames
  let (required, optional) := Raw.parameterNames a.kind
  (∀ p ∈ required, p ∈ told) ∧ ∀ p ∈ told, p ∈ required ++ optional

theorem suits (a : Atom) : Suits a := by
  have fit : ∀ k : AtomKind,
      (∀ p ∈ (Raw.parameterNames k).1, p ∈ k.record.fields.map (·.name)) ∧
        ∀ p ∈ k.record.fields.map (·.name),
          p ∈ (Raw.parameterNames k).1 ++ (Raw.parameterNames k).2 := by
    intro k
    cases k <;> decide
  exact fit a.kind

end Library

/-! ## Two runs with different reports -/

/-- The first run has told some reports, and else what the second has told. -/
def skipping (told : List Event) : Pairing where
  known _ := True
  alike log log' := log.filter Event.isReport = told ∧
    (log.filter fun e => !e.isReport && Journal.Spoken e) = log'.filter Journal.Spoken
  tell e own := by
    rintro ⟨reports, others⟩
    refine ⟨?_, ?_⟩
    · simp [reports, own]
    · simp [others, own, List.filter_append, List.filter_cons]

variable {ρ : Type}

namespace Act

variable {α β : Type}

/-- Begun on paired runs two steps end alike, and where they answer they leave runs that are
paired anew. -/
def Together (pair pair' : Pairing) (x y : Act ρ α) : Prop :=
  ∀ r r', r.Beside pair r' → (x.run r).1 = (y.run r').1 ∧
    ∀ a, (x.run r).1 = .ok a → (x.run r).2.Beside pair' (y.run r').2

theorem Steady.together {pair : Pairing} {x : Act ρ α} {Q : α → Prop} (h : Steady pair x Q) :
    Together pair pair x x := by
  intro r r' beside
  obtain ⟨same, left, -⟩ := h r r' beside
  exact ⟨same, fun _ _ => left⟩

namespace Together

variable {pair pair' pair'' : Pairing}

theorem bind {x y : Act ρ α} {f g : α → Act ρ β} (first : Together pair pair' x y)
    (next : ∀ a, Together pair' pair'' (f a) (g a)) :
    Together pair pair'' (x >>= f) (y >>= g) := by
  intro r r' beside
  obtain ⟨same, left⟩ := first r r' beside
  rw [run_bind, run_bind]
  rcases ran : x.run r with ⟨v, s⟩
  rcases ran' : y.run r' with ⟨v', s'⟩
  rw [ran, ran'] at same left
  cases same
  cases v with
  | error f => exact ⟨rfl, fun _ ended => by cases ended⟩
  | ok a => exact next a s s' (left a rfl)

/-- A step on the first run only. -/
theorem before {x : Act ρ α} {a : α} {f : α → Act ρ β} {y : Act ρ β} {step : Run ρ → Run ρ}
    (ran : ∀ r, x.run r = (.ok a, step r))
    (left : ∀ r r', r.Beside pair r' → (step r).Beside pair' r')
    (next : Together pair' pair'' (f a) y) : Together pair pair'' (x >>= f) y := by
  intro r r' beside
  rw [run_bind, ran]
  exact next (step r) r' (left r r' beside)

end Together

variable {b : Scene} {o : Origin} {told : List Event}

/-- Telling, by an acting card. -/
theorem run_tell (acting : b.actor = some o) (e : Event) (r : Run ρ) :
    (Act.tell b e : Act ρ Unit).run r = (.ok (), { r with log := r.log ++ [e] }) := by
  rw [Act.tell, Act.actor, acting]
  rfl

/-- Traces need not be the same: they are not spoken. -/
theorem trace_together (acting : b.actor = some o) (t t' : Trace) :
    Together (skipping told) (skipping told) (Act.trace b t : Act ρ Unit) (Act.trace b t') := by
  have written : ∀ t : Trace, (Act.trace b t : Act ρ Unit) = Act.tell b (.trace t) := by
    intro t
    rw [Act.trace, acting]
    rfl
  intro r r' beside
  rw [written, written, run_tell acting, run_tell acting]
  refine ⟨rfl, fun _ _ => ⟨beside.table, beside.within, beside.cards, beside.source, ?_⟩⟩
  obtain ⟨reports, others⟩ := beside.log
  refine ⟨?_, ?_⟩
  · simpa [List.filter_append, Event.isReport] using reports
  · simpa [List.filter_append, Event.isReport, Journal.Spoken, Event.level] using others

/-- A report on the first run. -/
theorem report_beside (name : String) (r r' : Run ρ) (beside : r.Beside (skipping told) r') :
    ({ r with log := r.log ++ [.notice (.unknownAtom name)] } : Run ρ).Beside
      (skipping (told ++ [.notice (.unknownAtom name)])) r' := by
  refine ⟨beside.table, beside.within, beside.cards, beside.source, ?_⟩
  obtain ⟨reports, others⟩ := beside.log
  refine ⟨?_, ?_⟩
  · simp [List.filter_append, Event.isReport, reports]
  · simpa [List.filter_append, Event.isReport] using others

end Act

/-! ## Chains -/

/-- The calls whose names the library has. -/
def Library.kept (l : Library) (calls : List Call) : List Call := calls.filter fun c => l.has c.name

/-- The reports of the calls whose names the library lacks. -/
def Library.reports (l : Library) (calls : List Call) : List Event :=
  (calls.filter fun c => !l.has c.name).map fun c => .notice (.unknownAtom c.name)

/-- The entry without the calls whose names the library lacks. -/
def Library.prune (l : Library) (entry : CardEffect) : CardEffect :=
  { entry with effects := l.kept entry.effects }

namespace Engine

variable [RandomSource ρ] (names : List String) (cardId : Json) {b : Scene} {o : Origin}

theorem runCalls_together (acting : b.actor = some o) {calls : List Call}
    (apart : ∀ call ∈ calls, call.Apart) (told : List Event) (index index' : Nat) :
    let l := Library.lacking names
    Act.Together (skipping told) (skipping (told ++ l.reports calls))
      (runCalls l cardId b index calls : Act ρ Unit) (runCalls l cardId b index' (l.kept calls)) := by
  intro l
  induction calls generalizing told index index' with
  | nil =>
      have none_ : told ++ l.reports [] = told := List.append_nil told
      rw [none_]
      exact (Act.Steady.pure (Q := Act.Any) trivial).together
  | cons call calls ih =>
      have rest := ih fun c mem => apart c (List.mem_cons_of_mem _ mem)
      have built := Library.build_lacking names (apart call List.mem_cons_self)
      cases known : l.has call.name with
      | true =>
          obtain ⟨x, built⟩ : ∃ x, l.build call = .ok x := by simpa [l, known] using built
          have kept : l.kept (call :: calls) = call :: l.kept calls := by
            simp [Library.kept, known]
          have reports : l.reports (call :: calls) = l.reports calls := by
            simp [Library.reports, known]
          have bound : (skipping told).Binds b := ⟨fun _ _ => trivial, fun _ _ => trivial⟩
          rw [kept, reports, runCalls, runCalls, built]
          exact (Act.trace_together acting _ _).bind fun _ =>
            (Act.Steady.carryOut bound x).together.bind fun _ => rest told _ _
      | false =>
          have built : l.build call = .error .unknown := by simpa [l, known] using built
          have kept : l.kept (call :: calls) = l.kept calls := by simp [Library.kept, known]
          have reports : told ++ l.reports (call :: calls)
              = (told ++ [.notice (.unknownAtom call.name)]) ++ l.reports calls := by
            simp [Library.reports, known]
          rw [kept, reports, runCalls, built]
          exact .before (Act.run_tell acting _) (Act.report_beside call.name) (rest _ _ _)

theorem chain_together (acting : b.actor = some o) {calls : List Call}
    (apart : ∀ call ∈ calls, call.Apart) :
    let l := Library.lacking names
    Act.Together (skipping []) (skipping (l.reports calls))
      (chain l cardId b calls : Act ρ Unit) (chain l cardId b (l.kept calls)) := by
  intro l
  exact (runCalls_together names cardId acting apart [] 0 0).bind fun _ =>
    Act.Steady.settle.together

/-- What two plays have in common where the first one applies, and its chain has calls that
the second has not. -/
structure Skips (reports : List Event) (o o' : Outcome ρ) (r r' : Resolution State) : Prop where
  first : o.result = .ok r
  second : o'.result = .ok r'
  status : r.status = .applied ∧ r'.status = .applied
  state : r.state = r'.state
  source : o.source = o'.source
  reported : r.events.filter Event.isReport = reports
  others : (r.events.filter fun e => !e.isReport && Journal.Spoken e)
    = r'.events.filter Journal.Spoken

theorem play_skips (acting : b.actor = some o) {calls : List Call}
    (apart : ∀ call ∈ calls, call.Apart) {e e' : Engine} (library : e.library = .lacking names)
    (library' : e'.library = .lacking names) {run : Run ρ} (begun : run.log = []) (aimed : Bool)
    {r : Resolution State} (ran : (e.play cardId calls ⟨b, run, aimed⟩).result = .ok r) :
    ∃ r', Skips ((Library.lacking names).reports calls) (e.play cardId calls ⟨b, run, aimed⟩)
      (e'.play cardId ((Library.lacking names).kept calls) ⟨b, run, aimed⟩) r r' := by
  have beside : run.Beside (skipping []) run :=
    ⟨rfl, .of_cards fun _ _ => trivial, fun _ _ => rfl, rfl, by rw [begun]; exact ⟨rfl, rfl⟩⟩
  obtain ⟨same, left⟩ := chain_together names cardId acting apart run run beside
  simp only [play_eq, library, library'] at ran ⊢
  generalize (chain (.lacking names) cardId b calls : Act ρ Unit).run run = first at same left ran ⊢
  generalize (chain (.lacking names) cardId b ((Library.lacking names).kept calls) :
    Act ρ Unit).run run = second at same left ⊢
  obtain ⟨v, t⟩ := first
  obtain ⟨v', t'⟩ := second
  cases same
  cases v with
  | error f => cases ran
  | ok a =>
      cases ran
      have left := left a rfl
      exact ⟨_, rfl, rfl, ⟨rfl, rfl⟩, congrArg State.ofBoard left.snapshot, left.source,
        left.log.1, left.log.2⟩

omit [RandomSource ρ] in
theorem acting_of_prepare {tracing : Bool} {inv : Invocation} {board : Board} {source : ρ} {p : Prepared ρ}
    (ready : prepare tracing inv board source = .ok p) :
    (∃ o, p.scene.actor = some o) ∧ p.run.log = [] := by
  cases acting : inv.card with
  | none =>
      rw [prepare, acting] at ready
      cases ready
  | some c =>
      rw [prepare_of_card acting] at ready
      obtain ⟨own, -, ready⟩ := Except.bind_eq_ok ready
      obtain ⟨side, -, ready⟩ := Except.bind_eq_ok ready
      cases ready
      exact ⟨⟨_, rfl⟩, rfl⟩

/-- An entry that no gate holds back is played. -/
theorem resolveEntry_of_open {entry : CardEffect} {p : Prepared ρ} (e : Engine) (s : State)
    (present : ¬ (p.aimed && p.scene.target.isNone) = true)
    (given : ¬ (entry.needsTarget && !p.aimed) = true) (plain : entry.uiMode = none) :
    e.resolveEntry cardId entry s p = e.play cardId entry.effects p := by
  rw [resolveEntry, if_neg present, if_neg given, plain]

/-- No gate held back an entry that was applied. -/
theorem open_of_applied {entry : CardEffect} {p : Prepared ρ} {e : Engine} {s : State}
    {r : Resolution State} (ran : (e.resolveEntry cardId entry s p).result = .ok r)
    (applied : r.status = .applied) :
    ¬ (p.aimed && p.scene.target.isNone) = true ∧ ¬ (entry.needsTarget && !p.aimed) = true ∧
      entry.uiMode = none := by
  rw [resolveEntry] at ran
  split at ran
  · cases ran
    cases applied
  · split at ran
    · cases ran
      cases applied
    · split at ran
      · cases ran
        cases applied
      · exact ⟨‹_›, ‹_›, ‹_›⟩

/-- Before the chain both plays go the same way, and an applied one comes to its chain. -/
theorem resolveEntry_skips {entry : CardEffect} (apart : ∀ call ∈ entry.effects, call.Apart)
    {e e' : Engine} (library : e.library = .lacking names) (library' : e'.library = .lacking names)
    {p : Prepared ρ} (acting : p.scene.actor = some o) (begun : p.run.log = []) (s : State)
    {r : Resolution State} (ran : (e.resolveEntry cardId entry s p).result = .ok r)
    (applied : r.status = .applied) :
    ∃ r', Skips ((Library.lacking names).reports entry.effects) (e.resolveEntry cardId entry s p)
      (e'.resolveEntry cardId ((Library.lacking names).prune entry) s p) r r' := by
  obtain ⟨present, given, plain⟩ := open_of_applied cardId ran applied
  -- An entry keeps its gates when calls are taken out of it.
  have pruned : e'.resolveEntry cardId ((Library.lacking names).prune entry) s p
      = e'.play cardId ((Library.lacking names).kept entry.effects) p :=
    resolveEntry_of_open cardId e' s present given plain
  rw [resolveEntry_of_open cardId e s present given plain] at ran ⊢
  rw [pruned]
  exact play_skips names cardId acting apart library library' begun p.aimed ran

theorem resolve_skips {entry : CardEffect} (apart : ∀ call ∈ entry.effects, call.Apart)
    {c c' : LaneDuel.Catalog} (found : c.find cardId = .ok (some entry))
    (pruned : c'.find cardId = .ok (some ((Library.lacking names).prune entry))) (tracing : Bool)
    (inv : Invocation) (s : State) (source : ρ) {r : Resolution State}
    (ran : ((mk c (.lacking names)).resolve tracing cardId inv s source).result = .ok r)
    (applied : r.status = .applied) :
    ∃ r', Skips ((Library.lacking names).reports entry.effects)
      ((mk c (.lacking names)).resolve tracing cardId inv s source)
      ((mk c' (.lacking names)).resolve tracing cardId inv s source) r r' := by
  have own : ∀ entry', c.find cardId = .ok (some entry') → ∀ call ∈ entry'.effects, call.Apart := by
    intro entry' found'
    rw [found] at found'
    cases found'
    exact apart
  have less : ∀ entry', c'.find cardId = .ok (some entry') →
      ∀ call ∈ entry'.effects, call.Apart := by
    intro entry' found'
    rw [pruned] at found'
    cases found'
    exact fun call mem => apart call (List.mem_of_mem_filter mem)
  rw [resolve_eq_course (e := mk c _) own] at ran ⊢
  rw [resolve_eq_course (e := mk c' _) less]
  simp only [course, found, pruned] at ran ⊢
  cases copied : s.board with
  | error f =>
      rw [copied] at ran
      cases ran
  | ok b =>
      simp only [copied, resolveLoose] at ran ⊢
      cases ready : prepare tracing inv b source with
      | error f =>
          rw [ready] at ran
          cases ran
      | ok p =>
          rw [ready] at ran
          obtain ⟨⟨o, acting⟩, begun⟩ := acting_of_prepare ready
          exact resolveEntry_skips names cardId apart rfl rfl acting begun s ran applied

/-- **Skipping.**  With the standard library less some names, an accepted entry that is applied
is played as if the calls whose names are missing were not there: the same state, status and
source, and besides one report for each of those calls, in order and with its name, the same
entries.  The full library builds every checked call of the entry as it is. -/
theorem unknown_skipped {v : Json} {entry : CardEffect}
    (accepted : CardEffect.codec.read v = .ok entry) {c c' : LaneDuel.Catalog}
    (found : c.find cardId = .ok (some entry))
    (pruned : c'.find cardId = .ok (some ((Library.lacking names).prune entry)))
    (inv : Invocation) (s : State) (source : ρ) {r : Resolution State}
    (ran : ((mk c (.lacking names)).resolve false cardId inv s source).result = .ok r)
    (applied : r.status = .applied) :
    let o := (mk c (.lacking names)).resolve false cardId inv s source
    let o' := (mk c' (.lacking names)).resolve false cardId inv s source
    let missing := entry.effects.filter fun call => !(Library.lacking names).has call.name
    (∃ r', o'.result = .ok r' ∧ r'.status = .applied ∧ r'.state = r.state ∧ o'.source = o.source ∧
      ∀ book,
        let es := Journal.entries book false r.events
        es.filter Journal.Entry.isReport = missing.map (fun call =>
          ⟨.error, "engine.unknown_atom", (Notice.unknownAtom call.name).text book⟩) ∧
        es.filter (fun entry => !entry.isReport) = Journal.entries book false r'.events) ∧
    ∀ a, .known a ∈ entry.effects →
      Library.Suits a ∧ Library.standard.build (.known a) = .ok (.checked a) := by
  intro o o' missing
  refine ⟨?_, fun a _ => ⟨Library.suits a, Library.build_standard a⟩⟩
  have apart := CardEffect.yields_apart v entry accepted
  obtain ⟨r', skips⟩ := resolve_skips names cardId apart found pruned false inv s source ran applied
  refine ⟨r', skips.second, skips.status.2, skips.state.symm, skips.source.symm, fun book => ?_⟩
  refine ⟨?_, ?_⟩
  · rw [Journal.reports_entries, skips.reported, Library.reports, List.map_map]
    rfl
  · rw [Journal.others_entries, skips.others, Journal.entries_untraced]

end Engine

end Loose

namespace Example

/-- A rite as it is written: its first call is by a name that is taken away, its third by a
strange one. -/
def rite : Json :=
  .obj [("name", .str "omen"), ("type", .str "miracle"), ("effects", .arr [
    .obj [("atom", .str "skipTurn")], .obj [("atom", .str "discardAndRedraw")],
    .obj [("atom", .str "conjure")], .obj [("atom", .str "swapBattlefields")]])]

theorem rite_skipped :
    let performed := entry [.known .skipTurn, .known .discardAndRedraw, .unknown "conjure" [],
      .known .swapBattlefields]
    let c : Catalog := ⟨[(1, performed)]⟩
    let c' : Catalog := ⟨[(1, entry [.known .discardAndRedraw, .known .swapBattlefields])]⟩
    let inv : Loose.Invocation := .ofChecked ⟨.red, card "omen" .miracle, none⟩
    let s : Loose.State := .ofChecked duel
    let l := Loose.Library.lacking ["skipTurn"]
    CardEffect.codec.read rite = .ok performed ∧ c.find (.int 1) = .ok (some performed) ∧
      c'.find (.int 1) = .ok (some (l.prune performed)) ∧
      ∃ r r', ((Loose.Engine.mk c l).resolve false (.int 1) inv s (Lcg.ofSeed 7)).result = .ok r ∧
        ((Loose.Engine.mk c' l).resolve false (.int 1) inv s (Lcg.ofSeed 7)).result = .ok r' ∧
        r.status = .applied ∧ r'.state = r.state ∧
        ∀ book, (Journal.entries book false r.events).filter Journal.Entry.isReport
          = [⟨.error, "engine.unknown_atom", (Notice.unknownAtom "skipTurn").text book⟩,
            ⟨.error, "engine.unknown_atom", (Notice.unknownAtom "conjure").text book⟩] := by
  intro performed c c' inv s l
  have accepted : CardEffect.codec.read rite = .ok performed := rfl
  have found : c.find (.int 1) = .ok (some performed) := rfl
  have pruned : c'.find (.int 1) = .ok (some (l.prune performed)) := rfl
  let o := (Loose.Engine.mk c l).resolve false (.int 1) inv s (Lcg.ofSeed 7)
  have returns : o.result.isOk = true := by decide +kernel
  obtain ⟨r, ran⟩ : ∃ r, o.result = .ok r := by
    cases ended : o.result with
    | ok r => exact ⟨r, rfl⟩
    | error f =>
        rw [ended] at returns
        cases returns
  have applied : r.status = .applied := Loose.Engine.applied_of_go rfl false (Lcg.ofSeed 7) ran
  obtain ⟨⟨r', ran', -, same, -, told⟩, -⟩ := Loose.Engine.unknown_skipped ["skipTurn"] (.int 1)
    accepted found pruned inv s (Lcg.ofSeed 7) ran applied
  exact ⟨accepted, found, pruned, r, r', ran, ran', applied, same, fun book => (told book).1⟩

end Example

end LaneDuel
