/-
# LaneDuel.Proofs.Loose.Does -- loose steps on typed runs

`Act.Does x r a r'` says that a loose step, begun on a typed run, answers `a` and leaves
what the checked run `r'` is.  The one thing it may fail on is a notice that shows a
number of too many digits, and then `r'` holds this notice: a checked run is not put into
words.  Every operation that effects are made of has such a law; `Does.bind` puts two
steps in a row, and `Does.each` turns a loop into a fold of checked runs, so each effect
is a chain of these laws.
-/
import LaneDuel.Proofs.Loose.Values

namespace LaneDuel.Loose

set_option autoImplicit false

variable {ρ : Type}

namespace Run

/-- A checked run as a loose one. -/
def ofChecked (r : LaneDuel.Run ρ) : Run ρ :=
  ⟨Board.loosen r.table, fun o => .ofChecked (r.cards o), r.source, r.log⟩

theorem enter_ofChecked (s : LaneDuel.State) (actor target : LaneDuel.Card) (source : ρ) :
    enter (.ofChecked s) (.ofChecked actor) (.ofChecked target) source
      = ofChecked (LaneDuel.Run.enter s actor target source) := by
  have cards : (Board.ofChecked s).cardOf (Card.ofChecked actor) (Card.ofChecked target)
      = fun o => Card.ofChecked (Table.cardOf s actor target o) :=
    funext (Board.cardOf_ofChecked s actor target)
  rw [enter, cards, Board.ofChecked_eq, Table.origins_map, Board.origins_loosen]
  rfl

theorem snapshot_ofChecked (r : LaneDuel.Run ρ) :
    (ofChecked r).snapshot = .ofChecked r.snapshot := by
  have twice : Board.ofChecked r.snapshot
      = ((Board.loosen r.table).map r.cards).map Card.ofChecked := rfl
  rw [twice, Table.map_map]
  rfl

theorem put_ofChecked (r : LaneDuel.Run ρ) (o : Origin) (c : LaneDuel.Card) :
    ofChecked (r.put o c)
      = { ofChecked r with
          cards := fun x => if x = o then .ofChecked c else (ofChecked r).cards x } := by
  have cards : (fun x => Card.ofChecked ((r.put o c).cards x))
      = fun x => if x = o then .ofChecked c else Card.ofChecked (r.cards x) :=
    funext fun x => apply_ite Card.ofChecked (x = o) c (r.cards x)
  rw [ofChecked, cards]
  rfl

theorem fieldCards_ofChecked (r : LaneDuel.Run ρ) (sides : List Side) :
    (ofChecked r).table.fieldCards sides = r.table.fieldCards sides :=
  Board.fieldCards_loosen r.table sides

end Run

theorem Board.loosen_modifyPlayer {α : Type} (t : Table Int LaneDuel.Signals α) (s : Side)
    {f : LaneDuel.Player Json α → LaneDuel.Player Json α}
    {g : LaneDuel.Player Int α → LaneDuel.Player Int α}
    (h : f (loosenPlayer (t.player s)) = loosenPlayer (g (t.player s))) :
    (loosen t).modifyPlayer s f = loosen (t.modifyPlayer s g) := by
  rw [Table.modifyPlayer, player_loosen, h]
  cases s <;> rfl

namespace Act

variable {α β : Type}

/-- A step and what follows it; nothing follows a failure. -/
theorem run_bind (x : Act ρ α) (f : α → Act ρ β) (r : Run ρ) :
    (x >>= f).run r = match x.run r with
      | (.ok a, s) => (f a).run s
      | (.error e, s) => (.error e, s) := by
  change (match x.run r with | (v, s) => ExceptT.bindCont f v s) = _
  obtain ⟨v, s⟩ := x.run r
  cases v <;> rfl

/-- From a typed run a step comes to an answer and to a typed run, if everything that
the typed run has more in its log can be put into words; otherwise the step fails. -/
def Does (x : Act ρ α) (r : LaneDuel.Run ρ) (a : α) (r' : LaneDuel.Run ρ) : Prop :=
  ∃ es, r'.log = r.log ++ es ∧
    if es.all Event.writable then x.run (.ofChecked r) = (.ok a, .ofChecked r')
    else (x.run (.ofChecked r)).1 = .error .tooLongToWrite

namespace Does

variable {r r' r'' : LaneDuel.Run ρ}

/-! ## Steps in a row -/

/-- A step that tells nothing comes to its answer. -/
theorem silent {x : Act ρ α} {a : α} (kept : r'.log = r.log)
    (ran : x.run (.ofChecked r) = (.ok a, .ofChecked r')) : Does x r a r' :=
  ⟨[], kept.trans (List.append_nil _).symm, ran⟩

theorem pure (a : α) : Does (Pure.pure a) r a r := silent rfl rfl

/-- What follows is reached where what was told so far can be put into words. -/
theorem bind {x : Act ρ α} {f : α → Act ρ β} {a : α} {b : β} (first : Does x r a r')
    (next : Does (f a) r' b r'') : Does (x >>= f) r b r'' := by
  obtain ⟨es, told, ran⟩ := first
  obtain ⟨es', told', ran'⟩ := next
  refine ⟨es ++ es', by rw [told', told, List.append_assoc], ?_⟩
  rw [List.all_append, run_bind]
  cases sayable : es.all Event.writable with
  | true =>
      rw [sayable, if_pos rfl] at ran
      rw [ran, Bool.true_and]
      exact ran'
  | false =>
      rw [sayable, if_neg Bool.false_ne_true] at ran
      rw [Bool.false_and, if_neg Bool.false_ne_true]
      generalize x.run (.ofChecked r) = ended at ran
      obtain ⟨v, s⟩ := ended
      obtain rfl : v = .error .tooLongToWrite := ran
      rfl

/-- From a run that has told nothing yet a step comes to an end as the log it leaves can be
put into words. -/
theorem afresh {x : Act ρ α} {a : α} (done : Does x r a r') (begun : r.log = []) :
    if r'.log.all Event.writable then x.run (.ofChecked r) = (.ok a, .ofChecked r')
    else (x.run (.ofChecked r)).1 = .error .tooLongToWrite := by
  obtain ⟨es, told, ran⟩ := done
  rwa [told, begun, List.nil_append]

/-- A loop whose body always goes on is a fold. -/
theorem each {as : List α} {f : α → PUnit → Act ρ (ForInStep PUnit)}
    (step : LaneDuel.Run ρ → α → LaneDuel.Run ρ)
    (body : ∀ r, ∀ a ∈ as, Does (f a ⟨⟩) r (.yield ⟨⟩) (step r a)) (r : LaneDuel.Run ρ) :
    Does (do forIn as PUnit.unit f) r () (as.foldl step r) := by
  induction as generalizing r with
  | nil => exact pure ()
  | cons a as ih =>
      rw [List.forIn_cons]
      exact (body r a List.mem_cons_self).bind
        (ih (fun r x mem => body r x (List.mem_cons_of_mem a mem)) (step r a))

theorem mapM {as : List α} {f : α → Act ρ β} {g : α → β}
    (one : ∀ a ∈ as, Does (f a) r (g a) r) : Does (as.mapM f) r (as.map g) r := by
  induction as with
  | nil => exact pure []
  | cons a as ih =>
      rw [List.mapM_cons]
      have rest := ih fun x mem => one x (List.mem_cons_of_mem a mem)
      exact (one a List.mem_cons_self).bind (rest.bind (pure _))

/-! ## Operations -/

theorem ofExcept {v : Except Failure α} {a : α} (h : v = .ok a) : Does (Act.ofExcept v) r a r := by
  rw [h]
  exact pure a

theorem get : Does MonadState.get r (Run.ofChecked r) r := silent rfl rfl

theorem look (o : Origin) : Does (Act.look o) r (.ofChecked (r.cards o)) r := silent rfl rfl

theorem put (o : Origin) (c : LaneDuel.Card) :
    Does (Act.put o (.ofChecked c)) r () (r.put o c) :=
  silent rfl (congrArg (Prod.mk (Except.ok ())) (Run.put_ofChecked r o c).symm)

theorem player (s : Side) : Does (Act.player s) r (Board.loosenPlayer (r.player s)) r :=
  silent rfl (congrArg (fun p => (Except.ok p, Run.ofChecked r)) (Board.player_loosen r.table s))

theorem modifyTable {f : Table Json Signals Origin → Table Json Signals Origin}
    {g : Table Int LaneDuel.Signals Origin → Table Int LaneDuel.Signals Origin}
    (h : f (Board.loosen r.table) = Board.loosen (g r.table)) :
    Does (Act.modifyTable f) r () (r.modifyTable g) :=
  silent rfl
    (congrArg (fun t => (Except.ok (), (⟨t, (Run.ofChecked r).cards, r.source, r.log⟩ : Run ρ))) h)

theorem modifyPlayer (s : Side) {f : LaneDuel.Player Json Origin → LaneDuel.Player Json Origin}
    {g : LaneDuel.Player Int Origin → LaneDuel.Player Int Origin}
    (h : f (Board.loosenPlayer (r.player s)) = Board.loosenPlayer (g (r.player s))) :
    Does (Act.modifyPlayer s f) r () (r.modifyPlayer s g) :=
  modifyTable (Board.loosen_modifyPlayer r.table s h)

theorem draw {f : ρ → α × ρ} {a : α} {source : ρ} (h : f r.source = (a, source)) :
    Does (Act.draw f) r a { r with source } := by
  have drawn : Does (Act.draw f) r (f r.source).1 { r with source := (f r.source).2 } :=
    silent rfl rfl
  rw [h] at drawn
  exact drawn

theorem field (s : Side) : Does (Act.field s) r (r.field s) r :=
  (player s).bind (pure _)

theorem locate (id : String) : Does (Act.locate (.str id)) r
    (r.table.locate (fun o => (r.cards o).instanceId == id) [.battlefield]) r := by
  have found : (Board.loosen r.table).locate
        (fun o => same (Card.ofChecked (r.cards o)).instanceId (.str id)) [.battlefield]
      = r.table.locate (fun o => (r.cards o).instanceId == id) [.battlefield] := by
    simp only [Card.ofChecked, same_str, Board.locate_loosen]
  exact silent rfl (congrArg (fun slot => (Except.ok slot, Run.ofChecked r)) found)

section Scene

variable (tracing : Bool) (b : Binding)

theorem actor : Does (Act.actor (.ofBinding tracing b)) r b.actor r := silent rfl rfl

theorem notice (n : Notice) : Does (Act.notice (.ofBinding tracing b) n) r () (r.notice n) := by
  refine ⟨[.notice n], rfl, ?_⟩
  rw [Act.notice, List.all_cons, List.all_nil, Bool.and_true, Event.writable]
  cases n.writable <;> rfl

theorem trace (t : Trace) : Does (Act.trace (.ofBinding tracing b) t) r () (r.trace t) :=
  ⟨[.trace t], rfl, rfl⟩

end Scene

/-! ## Asking cards -/

section Tests

variable (test : Card → Except Failure Bool) {p : LaneDuel.Card → Bool}

theorem ask (asks : ∀ c, test (.ofChecked c) = .ok (p c)) (o : Origin) :
    Does (do Act.ofExcept (test (← Act.look o))) r (p (r.cards o)) r :=
  (look o).bind (ofExcept (asks (r.cards o)))

theorem anyCard (asks : ∀ c, test (.ofChecked c) = .ok (p c)) (os : List Origin) :
    Does (Act.anyCard os test) r (os.any fun o => p (r.cards o)) r := by
  induction os with
  | nil => exact pure false
  | cons o os ih =>
      rw [Act.anyCard, List.any_cons]
      refine (look o).bind ((ofExcept (asks (r.cards o))).bind ?_)
      cases p (r.cards o) with
      | true => exact pure true
      | false => exact ih

/-- Passing cards are gathered back to front, then turned around. -/
theorem filterAux (asks : ∀ c, test (.ofChecked c) = .ok (p c)) (os acc : List Origin) :
    Does (os.filterAuxM (fun o => do Act.ofExcept (test (← Act.look o))) acc) r
      ((os.filter fun o => p (r.cards o)).reverse ++ acc) r := by
  induction os generalizing acc with
  | nil => exact pure acc
  | cons o os ih =>
      rw [List.filterAuxM]
      refine (ask test asks o).bind ?_
      rw [List.filter_cons]
      cases p (r.cards o) with
      | true =>
          rw [if_pos rfl, List.reverse_cons, List.append_assoc]
          exact ih (o :: acc)
      | false => exact ih acc

theorem keep (asks : ∀ c, test (.ofChecked c) = .ok (p c)) (os : List Origin) :
    Does (Act.keep os test) r (os.filter fun o => p (r.cards o)) r := by
  have gathered := filterAux (r := r) test asks os []
  rw [List.append_nil] at gathered
  refine gathered.bind ?_
  rw [List.reverse_reverse]
  exact pure _

end Tests

end Does

end Act

end LaneDuel.Loose
