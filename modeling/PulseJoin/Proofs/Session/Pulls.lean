import PulseJoin.Proofs.Session.Closed
import PulseJoin.Proofs.Synchronizer.Pulls

/-!
# The two ways to pull

A consumer that does not wait may try or ask for the next bundle.  The one runs a pass first, the
other only if nothing is ready; what they hand out is the same.
-/

namespace PulseJoin.Session

universe u

variable {α : Type u} {c : Config} {clock : UInt64} {t : Session α}

/-- The two pulls agree, whatever was asked of a session in pull mode before.  They answer the same,
and the synchronizers they leave differ in nothing but the journal once a pass was run on both, at
the time of the pulls or later.  If the session is open and nothing is ready, they answer with a
bundle exactly if a pass makes one ready. -/
theorem pulls_agree (h : create c clock = .ok t) (hpull : c.delivery = .pull)
    (ops : List (Op α)) :
    let found := (t.run ops).2
    let tried := found.step .tryNext
    let pulled := found.step .next
    tried.1 = pulled.1 ∧
      (∀ later, found.clock ≤ later →
        (tried.2.synchronizer.evictExpired later).2.clearJournal =
          (pulled.2.synchronizer.evictExpired later).2.clearJournal) ∧
      (found.synchronizer.closed = false → found.synchronizer.outlet.queue = [] →
        let ready := (found.synchronizer.evictExpired found.clock).2.outlet.queue
        (tried.1 = .bundle none ↔ ready = []) ∧ (pulled.1 = .bundle none ↔ ready = [])) := by
  intro found tried pulled
  obtain ⟨acts, -, -, hsound⟩ := sound_run h ops
  have hpulls : found.synchronizer.outlet.pulls = true := by
    rw [pulls_run h ops, hpull]
    rfl
  obtain ⟨hsame, hafter⟩ := Synchronizer.tryNext_next hpulls hsound.outlet found.clock
  have hanswer : tried.1 = pulled.1 := congrArg Response.bundle hsame
  refine ⟨hanswer, hafter, fun hopen hempty => ?_⟩
  have htried : tried.1 = .bundle none ↔
      (found.synchronizer.evictExpired found.clock).2.outlet.queue = [] := by
    show Response.bundle (found.synchronizer.tryNext found.clock).1 = .bundle none ↔ _
    have houtlet := (found.synchronizer.outlet_closed_evictExpired found.clock).trans
      (hsound.outlet.trans hopen)
    rw [Synchronizer.tryNext_of_pulls hpulls, Synchronizer.pop_of_open houtlet,
      Response.bundle.injEq, List.head?_eq_none_iff]
  exact ⟨htried, hanswer ▸ htried⟩

/-- A bundle is ready and the pulse behind it too old.  Both pulls hand out the bundle, only the
first one drops the pulse, and the next pass makes up for it.  Where that pulse is the only one, a
pass resolves it without making anything ready, and both pulls come back empty. -/
theorem pulls_agree_old :
    ∃ t : Session Nat,
      create { channels := [⟨"a", 1, 0⟩, ⟨"b", 1, 0⟩], maxAge? := some 10, delivery := .pull } 0 =
          .ok t ∧
        let found := (t.run [.add ⟨"a", 1, 10⟩, .add ⟨"b", 1, 11⟩, .add ⟨"a", 2, 20⟩,
          .setClock 50]).2
        let tried := found.step .tryNext
        let pulled := found.step .next
        let alone := (t.run [.add ⟨"a", 2, 20⟩, .setClock 50]).2
        tried.1 = pulled.1 ∧ tried.2.synchronizer.buffer.keys = [] ∧
          pulled.2.synchronizer.buffer.keys = [2] ∧
          (tried.2.synchronizer.evictExpired 50).2.clearJournal =
            (pulled.2.synchronizer.evictExpired 50).2.clearJournal ∧
          (alone.synchronizer.evictExpired 50).1 = 1 ∧
          (alone.step .tryNext).1 = .bundle none ∧ (alone.step .next).1 = .bundle none := by
  have h : create (α := Nat) { channels := [⟨"a", 1, 0⟩, ⟨"b", 1, 0⟩], maxAge? := some 10,
                               delivery := .pull } 0 = .ok _ := rfl
  refine ⟨_, h, ?_⟩
  intro found tried pulled alone
  obtain ⟨hsame, hafter, -⟩ := pulls_agree h rfl [.add ⟨"a", 1, 10⟩, .add ⟨"b", 1, 11⟩,
    .add ⟨"a", 2, 20⟩, .setClock 50]
  obtain ⟨-, -, hidle⟩ := pulls_agree h rfl [.add ⟨"a", 2, 20⟩, .setClock 50]
  obtain ⟨htried, hpulled⟩ := hidle rfl rfl
  have hlater := hafter 50 (by decide)
  refine ⟨hsame, by decide, by decide, ?_, by decide, ?_, ?_⟩
  · simpa only [tried, pulled, found] using hlater
  · exact htried.2 rfl
  · exact hpulled.2 rfl

end PulseJoin.Session
