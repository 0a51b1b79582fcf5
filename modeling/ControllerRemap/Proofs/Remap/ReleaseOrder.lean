import ControllerRemap.Proofs.Device.FirstDeclaration
import ControllerRemap.Proofs.Remap.Release

/-! The order in which a rule table releases. Its targets are listed and released by two passes
over the rules, each of which skips the targets that it has seen. Both keep a target where the first
rule has it, and neither looks at a gate. -/

namespace ControllerRemap

/-- What is kept of a list without its repeats stands in the order of the first places. -/
theorem pairwise_idxOf_eraseDups {β : Type} [BEq β] [LawfulBEq β] (ks : List β) :
    ks.eraseDups.Pairwise fun a b => ks.idxOf a < ks.idxOf b := by
  induction ks using List.reverseRecOn with
  | nil => exact .nil
  | append_singleton ks k ih =>
    have hplace {a : β} (ha : a ∈ ks.eraseDups) : (ks ++ [k]).idxOf a = ks.idxOf a :=
      List.idxOf_append_of_mem (List.mem_eraseDups.1 ha)
    have hkept : ks.eraseDups.Pairwise fun a b => (ks ++ [k]).idxOf a < (ks ++ [k]).idxOf b :=
      ih.imp_of_mem fun ha hb hlt => by rwa [hplace ha, hplace hb]
    rw [eraseDups_concat]
    split
    · exact hkept
    · next hk =>
      refine List.pairwise_append.2 ⟨hkept, List.pairwise_singleton _ _, fun a ha b hb => ?_⟩
      rw [List.mem_singleton.1 hb, hplace ha, List.idxOf_append_of_notMem hk]
      exact Nat.lt_add_right _ (List.idxOf_lt_length_of_mem (List.mem_eraseDups.1 ha))

/-- Of events on different channels, each is the last one on its own. -/
theorem Event.lastOn_of_nodup {es : List Event} (h : (es.map (·.channel)).Nodup) :
    es.map (fun e => lastOn e.channel es) = es.map fun e => some e.value := by
  refine List.map_congr_left fun e he => ?_
  obtain ⟨before, after, rfl⟩ := List.append_of_mem he
  rw [List.map_append, List.map_cons, List.nodup_middle, List.nodup_cons] at h
  have hafter : ∀ f ∈ after, f.channel ≠ e.channel := fun f hf heq =>
    h.1 (List.mem_append_right _ (heq ▸ List.mem_map_of_mem hf))
  rw [List.append_cons, lastOn_append_of_ne _ hafter, lastOn_append, lastOn_singleton, if_pos rfl]
  rfl

namespace Remapper

theorem targets_eq (r : Remapper) : r.targets = (r.rules.map (·.target)).eraseDups := by
  rw [targets, rules, List.map_map]
  rfl

theorem channels_releaseFrom (seen : List Channel) (slots : List Slot) :
    (releaseFrom seen slots).map (·.channel) =
      ((slots.map (·.rule.target)).filter (· ∉ seen)).eraseDups := by
  induction slots generalizing seen with
  | nil => rfl
  | cons s slots ih =>
    rw [releaseFrom, List.map_cons]
    by_cases h : s.rule.target ∈ seen
    · rw [if_pos h, List.filter_cons_of_neg (by simpa using h), ih]
    · have hunseen (c : Channel) : decide (c ∉ s.rule.target :: seen) =
          (!c == s.rule.target && decide (c ∉ seen)) := by
        simp [Bool.decide_and, beq_eq_decide]
      rw [if_neg h, List.filter_cons_of_pos (by simpa using h), List.map_cons, ih,
        List.eraseDups_cons, List.filter_filter]
      simp only [hunseen]
      rfl

theorem channels_releaseAll (r : Remapper) : r.releaseAll.map (·.channel) = r.targets := by
  rw [releaseAll, channels_releaseFrom, targets]
  simp

theorem releaseFrom_congr {slots slots' : List Slot}
    (h : slots.map (·.rule) = slots'.map (·.rule)) (seen : List Channel) :
    releaseFrom seen slots = releaseFrom seen slots' := by
  induction slots generalizing slots' seen with
  | nil => rw [List.map_eq_nil_iff.1 h.symm]
  | cons s slots ih =>
    obtain ⟨t, slots', rfl, hrule, hrest⟩ := List.map_eq_cons_iff.1 h.symm
    rw [releaseFrom, releaseFrom, hrule, ih hrest.symm, ih hrest.symm]

/-- Gates have no part in a release. -/
theorem releaseAll_congr {r r' : Remapper} (h : r.rules = r'.rules) :
    r.releaseAll = r'.releaseAll :=
  releaseFrom_congr h []

/-- After any calls, each target of an accepted rule is released once, in the order in which the
targets were first registered, and to the release value of the first rule that has it. The channels
of the release events are the list of the targets, and the gates have no part in it. The live tables
that the calls see are arbitrary and need not be related. -/
theorem releases_each_target_once (calls : List Call) :
    let r := after {} calls
    let accepted := calls.filterMap Call.accepted
    r.releaseAll.map (·.channel) = r.targets ∧
    r.releaseAll.map (fun e => some e.value) = r.targets.map (Rule.restValue? accepted) ∧
    r.targets.Nodup ∧
    (∀ c, c ∈ r.targets ↔ ∃ rule ∈ accepted, rule.target = c) ∧
    (r.targets.Pairwise fun c d =>
      (accepted.map (·.target)).idxOf c < (accepted.map (·.target)).idxOf d) ∧
    ∀ gates : Nat → Bool,
      releaseAll { r with slots := r.slots.mapIdx fun i s => { s with isOpen := gates i } } =
        r.releaseAll := by
  intro r accepted
  have hrules : r.rules = accepted := indexed_empty.rules_after calls
  have htargets : r.targets = (accepted.map (·.target)).eraseDups := hrules ▸ r.targets_eq
  have hchannels : r.releaseAll.map (·.channel) = r.targets := r.channels_releaseAll
  have hnodup : r.targets.Nodup := htargets ▸ nodup_eraseDups _
  refine ⟨hchannels, ?_, hnodup, fun c => ?_, ?_, fun gates => ?_⟩
  · rw [← Event.lastOn_of_nodup (hchannels ▸ hnodup), ← hchannels, List.map_map]
    exact List.map_congr_left fun e _ => hrules ▸ r.lastOn_releaseAll e.channel
  · rw [htargets, List.mem_eraseDups, List.mem_map]
  · rw [htargets]
    exact pairwise_idxOf_eraseDups _
  · exact releaseAll_congr (List.ext_getElem (by simp [rules]) (by simp [rules]))

end Remapper

end ControllerRemap
