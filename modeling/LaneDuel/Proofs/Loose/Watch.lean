/-
# LaneDuel.Proofs.Loose.Watch -- what those who watch a play see

A journal is written event by event, and every recorded entry is told to the listener.  In
the end it holds what a filter over the whole log leaves, and the listener has heard the
messages of just these entries (`Journal.Live.write_eq`).  So whoever watches a play that
told some notices and nothing else sees one entry for each (`Watch.put_notices`).
-/
import LaneDuel.Loose.Watch

namespace LaneDuel

set_option autoImplicit false

namespace Journal

/-! ## Entries of a log -/

/-- Notices are recorded whether traces are or not. -/
theorem recorded_notice (tracing : Bool) (n : Notice) : recorded tracing n.level = true := by
  cases n <;> simp [recorded, Notice.level]

theorem mem_entries_of_notice {n : Notice} {events : List Event} (told : .notice n ∈ events)
    (book : Phrasebook) (tracing : Bool) :
    ⟨n.level, n.key, n.text book⟩ ∈ entries book tracing events :=
  List.mem_filter.mpr ⟨List.mem_map_of_mem told, recorded_notice tracing n⟩

theorem entries_notices (book : Phrasebook) (tracing : Bool) (notices : List Notice) :
    entries book tracing (notices.map .notice)
      = notices.map fun n => ⟨n.level, n.key, n.text book⟩ := by
  rw [entries, List.map_map, List.filter_eq_self.mpr]
  · rfl
  · intro e member
    obtain ⟨n, -, rfl⟩ := List.mem_map.mp member
    exact recorded_notice tracing n

theorem entries_cons (b : Phrasebook) (tracing : Bool) (e : Event) (es : List Event) :
    entries b tracing (e :: es)
      = if recorded tracing e.level then Entry.ofEvent b e :: entries b tracing es
        else entries b tracing es := by
  rw [entries, List.map_cons, List.filter_cons]
  rfl

/-- What is spoken does not depend on whether traces are recorded. -/
theorem spoken_entries (b : Phrasebook) (tracing : Bool) (es : List Event) :
    (entries b tracing es).filter (fun e => e.level != .debug) = entries b false es := by
  have absorbed : ∀ e : Entry,
      (e.level != .debug && recorded tracing e.level) = recorded false e.level := by
    intro e
    cases tracing <;> cases e.level <;> rfl
  simp only [entries, List.filter_filter, absorbed]

theorem outline_entries (b b' : Phrasebook) (tracing : Bool) (es : List Event) :
    (entries b tracing es).map (fun e => (e.level, e.key))
      = (entries b' tracing es).map fun e => (e.level, e.key) := by
  simp only [entries, List.filter_map, List.map_map]
  rfl

namespace Live

/-- Written event by event, a journal holds the entries of the events, and its listener has
heard their messages. -/
theorem write_eq (b : Phrasebook) (j : Live) (es : List Event) :
    j.write b es = { j with
      entries := j.entries ++ Journal.entries b j.tracing es
      listener := j.listener.map (· ++ heard (Journal.entries b j.tracing es)) } := by
  induction es generalizing j with
  | nil =>
      have silent : j.listener.map (· ++ heard (Journal.entries b j.tracing [])) = j.listener := by
        cases j.listener with
        | none => rfl
        | some h => exact congrArg some (List.append_nil h)
      rw [silent, Journal.entries, List.map_nil, List.filter_nil, List.append_nil]
      rfl
  | cons e es ih =>
      have next : j.write b (e :: es) = (j.emit (.ofEvent b e)).write b es := rfl
      rw [next, ih, entries_cons, emit]
      have level : (Entry.ofEvent b e).level = e.level := rfl
      rw [level]
      cases recorded j.tracing e.level with
      | false => rfl
      | true =>
          simp only [if_true, List.append_assoc, List.singleton_append, heard, List.map_cons,
            Option.map_map, Function.comp_def]

end Live

end Journal

namespace Loose

/-! ## Watching -/

/-- A listener, where there is one, has heard the messages of all entries, in order. -/
def Watched.Heard (w : Watch) (t : Watched) : Prop :=
  t.heard = if w.listening then some (t.entries.map (·.message)) else none

namespace Watch

theorem put_entries (w : Watch) (r : Resolution State) :
    (w.put r).entries = Journal.entries w.book w.tracing r.events := by
  simp only [put, Journal.Live.write_eq, Journal.Live.start, List.nil_append]

theorem put_heard (w : Watch) (r : Resolution State) : (w.put r).Heard w := by
  rw [Watched.Heard, put_entries]
  simp only [put, Journal.Live.write_eq, Journal.Live.start]
  cases w.listening <;> rfl

theorem put_spoken (w : Watch) (r : Resolution State) :
    (w.put r).spoken = Journal.entries w.book false r.events := by
  rw [Watched.spoken, put_entries, Journal.spoken_entries]

/-- Notices are all that is seen where nothing else was told. -/
theorem put_notices (w : Watch) (s : State) (status : Status) (notices : List Notice) :
    w.put ⟨s, status, notices.map .notice⟩
      = ⟨s, status, notices.map fun n => ⟨n.level, n.key, n.text w.book⟩,
          if w.listening then some (notices.map (·.text w.book)) else none⟩ := by
  have heard := w.put_heard ⟨s, status, notices.map .notice⟩
  rw [Watched.Heard, put_entries, Journal.entries_notices, List.map_map] at heard
  have entries := w.put_entries ⟨s, status, notices.map .notice⟩
  rw [Journal.entries_notices] at entries
  have parts : ∀ t : Watched, t = ⟨t.state, t.status, t.entries, t.heard⟩ := fun _ => rfl
  rw [parts (w.put _), entries, heard]
  rfl

end Watch

end Loose

end LaneDuel
