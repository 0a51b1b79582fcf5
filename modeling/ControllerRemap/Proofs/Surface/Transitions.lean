import ControllerRemap.Proofs.Surface.Sweep
import Mathlib.Data.List.Chain
import Mathlib.Data.List.Nodup

/-! Transitions of regions. A map of regions is updated at points and released in any order. What
is reported of a region over such a run alternates between entering and leaving, and ends in the
state of the region. The test of a point against a shape may be any, so nothing here depends on
geometry. -/

namespace ControllerRemap

/-- Values that start with true and change every time. -/
def Alternating (vs : List Bool) : Prop := (false :: vs).IsChain (· ≠ ·)

namespace RegionMap

variable {α β : Type}

/-! ### One region -/

/-- What was reported of a region alternates and ends in its state. -/
structure Follows (r : Region α) (history : List Bool) : Prop where
  alternating : Alternating history
  inside : r.inside = history.getLast?.getD false

theorem Follows.nil {r : Region α} (h : r.inside = false) : Follows r [] :=
  ⟨List.isChain_singleton _, h⟩

theorem Follows.retest {r : Region α} {history : List Bool} (h : Follows r history) (now : Bool) :
    Follows (retest r now).1 (history ++ (retest r now).2.map (·.2)) := by
  rw [RegionMap.retest]
  by_cases hnow : now = r.inside
  · rw [if_pos hnow, List.map_nil, List.append_nil]
    exact ⟨h.alternating, hnow.trans h.inside⟩
  · rw [if_neg hnow, List.map_singleton]
    refine ⟨?_, by simp⟩
    rw [Alternating, ← List.cons_append, List.isChain_append]
    refine ⟨h.alternating, List.isChain_singleton _, fun old hold new hnew => ?_⟩
    rw [List.getLast?_cons, Option.mem_some, ← h.inside] at hold
    rw [List.head?_cons, Option.mem_some] at hnew
    rw [← hold, ← hnew]
    exact Ne.symm hnow

/-- A map has a region that another one lacks. -/
def Adds (m rest : RegionMap α) (r : Region α) : Prop :=
  ∃ pre post, m.regions = pre ++ r :: post ∧ rest.regions = pre ++ post

section Adds

variable {m rest : RegionMap α} {r : Region α}

theorem Adds.eq_or_mem (h : m.Adds rest r) {s : Region α} (hs : s ∈ m.regions) :
    s = r ∨ s ∈ rest.regions := by
  obtain ⟨pre, post, hm, hrest⟩ := h
  rw [hm, List.mem_append, List.mem_cons] at hs
  rw [hrest, List.mem_append]
  tauto

/-- A sweep tests a region without regard to the others. -/
theorem Adds.sweep (h : m.Adds rest r) (now : Region α → Bool) :
    (m.sweep now).1.Adds (rest.sweep now).1 (retest r (now r)).1 ∧
      ∃ before after, (rest.sweep now).2 = before ++ after ∧
        (m.sweep now).2 = before ++ (retest r (now r)).2 ++ after := by
  obtain ⟨pre, post, hm, hrest⟩ := h
  refine ⟨⟨pre.map fun s => (retest s (now s)).1, post.map fun s => (retest s (now s)).1, ?_, ?_⟩,
    pre.flatMap fun s => (retest s (now s)).2, post.flatMap fun s => (retest s (now s)).2, ?_, ?_⟩
  · simp [RegionMap.sweep, hm]
  · simp [RegionMap.sweep, hrest]
  · simp [RegionMap.sweep, hrest]
  · simp [RegionMap.sweep, hm]

end Adds

/-- A region is the only one whose action passes a test. -/
structure Sole (test : α → Bool) (m : RegionMap α) (r : Region α) : Prop where
  passes : test r.action = true
  others : ∃ rest, m.Adds rest r ∧ ∀ a ∈ rest.actions, test a = false

section Sole

variable {test : α → Bool} {m : RegionMap α} {r : Region α}

theorem Sole.eq_of_mem (h : m.Sole test r) {s : Region α} (hs : s ∈ m.regions)
    (hpasses : test s.action = true) : s = r := by
  obtain ⟨rest, hadds, hothers⟩ := h.others
  refine (hadds.eq_or_mem hs).resolve_right fun hmem => ?_
  rw [hothers s.action (List.mem_map_of_mem hmem)] at hpasses
  cases hpasses

/-- A sweep reports the region and of the others nothing that passes. -/
theorem Sole.sweep (h : m.Sole test r) (now : Region α → Bool) :
    (m.sweep now).1.Sole test (retest r (now r)).1 ∧
      (m.sweep now).2.filter (test ·.1) = (retest r (now r)).2 := by
  obtain ⟨rest, hadds, hothers⟩ := h.others
  obtain ⟨hadds', before, after, hrest, hall⟩ := hadds.sweep now
  refine ⟨⟨h.passes, _, hadds', ?_⟩, ?_⟩
  · rw [sweep_actions]
    exact hothers
  · have hnone : ∀ x ∈ before ++ after, ¬test x.1 = true := by
      intro x hx
      rw [← hrest] at hx
      rw [hothers x.1 (mem_actions_of_sweep hx)]
      exact Bool.false_ne_true
    obtain ⟨hbefore, hafter⟩ := List.forall_mem_append.1 hnone
    rw [hall, List.filter_append, List.filter_append, List.filter_eq_nil_iff.2 hbefore,
      List.filter_eq_nil_iff.2 hafter, List.nil_append, List.append_nil, List.filter_eq_self]
    intro x hx
    rw [action_of_mem_retest hx]
    exact h.passes

end Sole

/-! ### Calls -/

/-- What may be asked of a map of regions. -/
inductive Call (α : Type) where
  | update (x y : Float)
  | updateEach (locate : α → Option (Float × Float))
  | release

def Call.run (m : RegionMap α) : Call α → RegionMap α × List (α × Bool)
  | update x y => m.update x y
  | updateEach locate => m.updateEach locate
  | release => m.release

section Containment

variable (contains : Shape → Float → Float → Bool)

/-- Whether the point of a call is in the region of a shape and an action. Without a point it is
not. -/
def Call.finds : Call α → Shape × α → Bool
  | update x y, p => contains p.1 x y
  | updateEach locate, p => match locate p.2 with
    | some (x, y) => contains p.1 x y
    | none => false
  | release, _ => false

/-- A call under any test of points. -/
def Call.perform (call : Call α) (m : RegionMap α) : RegionMap α × List (α × Bool) :=
  m.sweep fun r => call.finds contains (r.shape, r.action)

theorem Call.perform_contains (call : Call α) (m : RegionMap α) :
    call.perform Shape.contains m = call.run m := by
  cases call <;> rfl

/-- Calls in order, with all their reports. -/
def play (m : RegionMap α) : List (Call α) → RegionMap α × List (α × Bool)
  | [] => (m, [])
  | call :: calls =>
    let (m, fired) := call.perform contains m
    let (m, later) := m.play calls
    (m, fired ++ later)

variable {contains}

theorem play_cons (m : RegionMap α) (call : Call α) (calls : List (Call α)) :
    m.play contains (call :: calls) =
      (((call.perform contains m).1.play contains calls).1,
        (call.perform contains m).2 ++ ((call.perform contains m).1.play contains calls).2) := rfl

variable (contains) in
/-- What is reported of a region over a run goes on alternating. -/
theorem Sole.play {test : α → Bool} {m : RegionMap α} {r : Region α} {history : List Bool}
    (h : m.Sole test r) (hr : Follows r history) (calls : List (Call α)) :
    ∃ r', (m.play contains calls).1.Sole test r' ∧
      Follows r' (history ++ ((m.play contains calls).2.filter (test ·.1)).map (·.2)) := by
  induction calls generalizing m r history with
  | nil =>
    refine ⟨r, h, ?_⟩
    rw [RegionMap.play, List.filter_nil, List.map_nil, List.append_nil]
    exact hr
  | cons call calls ih =>
    obtain ⟨hsole, hfired⟩ := h.sweep fun r => call.finds contains (r.shape, r.action)
    obtain ⟨r', hsole', hr'⟩ := ih hsole (hr.retest _)
    refine ⟨r', hsole', ?_⟩
    rw [play_cons, List.filter_append, List.map_append, ← List.append_assoc, Call.perform, hfired]
    exact hr'

/-- The shapes and actions of the regions in order. -/
def placed (m : RegionMap α) : List (Shape × α) := m.regions.map fun r => (r.shape, r.action)

theorem placed_sweep (now : Region α → Bool) (m : RegionMap α) :
    (m.sweep now).1.placed = m.placed := by
  simp [sweep, placed, retest]

theorem placed_play (m : RegionMap α) (calls : List (Call α)) :
    (m.play contains calls).1.placed = m.placed := by
  induction calls generalizing m with
  | nil => rfl
  | cons call calls ih =>
    rw [play_cons, ih]
    exact placed_sweep _ m

theorem states_perform (call : Call α) (m : RegionMap α) :
    (call.perform contains m).1.states = m.placed.map (call.finds contains) := by
  rw [Call.perform, states_sweep, placed, List.map_map]
  rfl

end Containment

/-- The actions whose state is not what it was, with their new states. -/
def changes (actions : List α) (old new : List Bool) : List (α × Bool) :=
  (actions.zip (old.zip new)).filterMap fun (a, before, after) =>
    if after = before then none else some (a, after)

theorem sweep_changes (now : Region α → Bool) (m : RegionMap α) :
    (m.sweep now).2 = changes m.actions m.states (m.sweep now).1.states := by
  obtain ⟨regions⟩ := m
  induction regions with
  | nil => rfl
  | cons r regions ih =>
    have hcons : (sweep now ⟨r :: regions⟩).2 =
        (retest r (now r)).2 ++ (sweep now ⟨regions⟩).2 := rfl
    rw [hcons, ih, states_sweep, states_sweep]
    by_cases h : now r = r.inside <;> simp [changes, actions, states, retest, h]

/-- A sweep that finds what the last one found changes nothing. -/
theorem sweep_of_states {now : Region α → Bool} {m : RegionMap α}
    (h : ∀ r ∈ m.regions, now r = r.inside) : m.sweep now = (m, []) := by
  obtain ⟨regions⟩ := m
  rw [sweep, Prod.mk.injEq, List.flatMap_eq_nil_iff]
  constructor
  · rw [mk.injEq]
    refine (List.map_congr_left fun r hr => ?_).trans (List.map_id regions)
    rw [retest, h r hr]
    rfl
  · intro r hr
    rw [retest, if_pos (h r hr)]

/-! ### Numbered regions -/

/-- Regions as they are built, with nothing inside. -/
def ofPlaced (ps : List (Shape × α)) : RegionMap α :=
  ⟨ps.map fun p => { shape := p.1, action := p.2 }⟩

theorem placed_ofPlaced (ps : List (Shape × α)) : (ofPlaced ps).placed = ps := by
  rw [placed, ofPlaced, List.map_map]
  exact List.map_id ps

/-- Every action with its position, so that regions of one action can be told apart. -/
def number (ps : List (Shape × α)) : List (Shape × (α × Nat)) :=
  ps.zipIdx.map fun (p, i) => (p.1, (p.2, i))

/-- The map with other actions. -/
def rename (f : α → β) (m : RegionMap α) : RegionMap β :=
  ⟨m.regions.map fun r => { shape := r.shape, action := f r.action, inside := r.inside }⟩

/-- The call that locates actions by their new names. -/
def Call.along (f : α → β) : Call β → Call α
  | update x y => .update x y
  | updateEach locate => .updateEach fun a => locate (f a)
  | release => .release

theorem rename_number (ps : List (Shape × α)) :
    (ofPlaced (number ps)).rename Prod.fst = ofPlaced ps := by
  conv_rhs => rw [← List.zipIdx_map_fst 0 ps]
  rw [rename, ofPlaced, ofPlaced, number, List.map_map, List.map_map, List.map_map]
  rfl

variable {contains : Shape → Float → Float → Bool}

theorem perform_rename (f : α → β) (call : Call β) (m : RegionMap α) :
    call.perform contains (m.rename f) = (((call.along f).perform contains m).1.rename f,
      ((call.along f).perform contains m).2.map fun x => (f x.1, x.2)) := by
  have hfinds (p : Shape × α) :
      (call.along f).finds contains p = call.finds contains (p.1, f p.2) := by
    cases call <;> rfl
  simp only [Call.perform, sweep, rename, List.map_map, List.flatMap_map, List.map_flatMap,
    Function.comp_def, retest, hfinds, apply_ite (List.map _), List.map_nil, List.map_singleton]

/-- Names do not matter to a run. -/
theorem play_rename (f : α → β) (m : RegionMap α) (calls : List (Call β)) :
    (m.rename f).play contains calls = ((m.play contains (calls.map (·.along f))).1.rename f,
      (m.play contains (calls.map (·.along f))).2.map fun x => (f x.1, x.2)) := by
  induction calls generalizing m with
  | nil => rfl
  | cons call calls ih =>
    rw [play_cons, perform_rename, ih, List.map_cons, play_cons, List.map_append]

/-- No two regions have one number. -/
theorem sole_number {ps : List (Shape × α)} {p : Shape × (α × Nat)} (hp : p ∈ number ps) :
    (ofPlaced (number ps)).Sole (·.2 == p.2.2) { shape := p.1, action := p.2 } := by
  have hnodup : ((number ps).map (·.2.2)).Nodup := by
    have hnumbers : (number ps).map (·.2.2) = ps.zipIdx.map Prod.snd := by
      rw [number, List.map_map]
      rfl
    rw [hnumbers, List.zipIdx_map_snd]
    exact List.nodup_range'
  obtain ⟨pre, post, hsplit⟩ := List.append_of_mem hp
  rw [hsplit, List.map_append, List.map_cons, List.nodup_middle, List.nodup_cons,
    ← List.map_append] at hnodup
  refine ⟨beq_self_eq_true _, ofPlaced (pre ++ post), ⟨_, _, ?_, List.map_append⟩, ?_⟩
  · rw [hsplit, ofPlaced, List.map_append, List.map_cons]
  · rw [actions, ofPlaced, List.map_map, List.forall_mem_map]
    intro q hq
    exact beq_false_of_ne fun heq => hnodup.1 (heq ▸ List.mem_map_of_mem hq)

/-- The values that were reported of a region, by its number. -/
def historyOf (i : Nat) (log : List ((α × Nat) × Bool)) : List Bool :=
  (log.filter (·.1.2 == i)).map (·.2)

/-- Regions of any shapes and actions, any test of points, and any calls before a last one, each
with a point of its own for every region. The last call leaves the states that it finds; it
reports, in order, the regions whose state it changed. What has been reported of a region
alternates, starting with true, and ends in its state. A further call with the same finding
reports nothing and changes nothing. The regions are numbered to tell them apart, which makes no
difference to a run, and with the containment of shapes the calls are those of the map. -/
theorem transitions_alternate (contains : Shape → Float → Float → Bool) (ps : List (Shape × α))
    (calls : List (Call (α × Nat))) (call : Call (α × Nat)) :
    let start := ofPlaced (number ps)
    let before := start.play contains calls
    let after := call.perform contains before.1
    after.1.states = (number ps).map (call.finds contains) ∧
      after.2 = changes ((number ps).map (·.2)) before.1.states after.1.states ∧
      (∀ r ∈ after.1.regions, Alternating (historyOf r.action.2 (before.2 ++ after.2)) ∧
        r.inside = (historyOf r.action.2 (before.2 ++ after.2)).getLast?.getD false) ∧
      (∀ again : Call (α × Nat),
        (∀ p ∈ number ps, again.finds contains p = call.finds contains p) →
          again.perform contains after.1 = (after.1, [])) ∧
      (∀ plain : List (Call α), (ofPlaced ps).play contains plain =
        ((start.play contains (plain.map (·.along Prod.fst))).1.rename Prod.fst,
          (start.play contains (plain.map (·.along Prod.fst))).2.map fun x => (x.1.1, x.2))) ∧
      ∀ m, call.perform Shape.contains m = call.run m := by
  intro start before after
  have hbefore : before.1.placed = number ps := (placed_play start calls).trans (placed_ofPlaced _)
  have hafter : after.1.placed = number ps := (placed_sweep _ before.1).trans hbefore
  have hstates : after.1.states = (number ps).map (call.finds contains) := by
    rw [← hbefore]
    exact states_perform call before.1
  have hplaced {r : Region (α × Nat)} (hr : r ∈ after.1.regions) :
      (r.shape, r.action) ∈ number ps := by
    rw [← hafter]
    exact List.mem_map_of_mem hr
  have hinside : ∀ r ∈ after.1.regions, r.inside = call.finds contains (r.shape, r.action) := by
    rw [← hafter, placed, List.map_map] at hstates
    exact List.map_inj_left.1 hstates
  refine ⟨hstates, ?_, fun r hr => ?_, fun again hagain => ?_, fun plain => ?_,
    call.perform_contains⟩
  · have hactions : before.1.actions = (number ps).map (·.2) := by
      rw [← hbefore, placed, List.map_map]
      rfl
    rw [← hactions]
    exact sweep_changes _ before.1
  · have hstart := sole_number (hplaced hr)
    obtain ⟨r', hsole, hfollows⟩ := hstart.play contains (.nil rfl) calls
    obtain ⟨hsole', hfired⟩ := hsole.sweep fun r => call.finds contains (r.shape, r.action)
    have hlast := hfollows.retest (call.finds contains (r'.shape, r'.action))
    rw [← hsole'.eq_of_mem hr (beq_self_eq_true _), ← hfired, List.nil_append, ← List.map_append,
      ← List.filter_append] at hlast
    exact ⟨hlast.alternating, hlast.inside⟩
  · exact sweep_of_states fun r hr => (hagain _ (hplaced hr)).trans (hinside r hr).symm
  · rw [← rename_number, play_rename]

/-- Two boxes share a place and an action. The finger enters both, then each is tested at a point
of its own, and a second release follows the first. -/
theorem transitions_alternate_of_shared_action :
    let box : Shape := .rect (some 0.0) (some 10.0) none none
    let ps : List (Shape × Unit) := [(box, ()), (box, ())]
    let points : Unit × Nat → Option (Float × Float) := fun a =>
      if a.2 = 0 then none else some (10.0, 3.0)
    let before := (ofPlaced (number ps)).play Shape.contains [.update 5.0 5.0, .updateEach points]
    let after := Call.release.perform Shape.contains before.1
    before.2 = [(((), 0), true), (((), 1), true), (((), 0), false)] ∧
      after.2 = [(((), 1), false)] ∧
      Call.release.perform Shape.contains after.1 = (after.1, []) := by
  intro box ps points before after
  obtain ⟨-, -, -, hagain, -⟩ :=
    transitions_alternate Shape.contains ps [.update 5.0 5.0, .updateEach points] .release
  exact ⟨by decide +kernel, by decide +kernel, hagain .release fun _ _ => rfl⟩

end RegionMap

end ControllerRemap
