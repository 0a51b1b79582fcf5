import ControllerRemap.Remap.Remapper

/-! The indices of a rule table hold the positions of the rules concerned, in
increasing order and each once: a rule is filed by its source and by each channel of
its modifiers, which a valid rule does not repeat. Dispatch through such indices is a
plain scan of the table. Registration and dispatch keep the indices in this shape. -/

namespace ControllerRemap

/-! ### Positions -/

section Positions

variable {α β : Type}

/-- The positions, counted from an offset, of the elements that pass a test. -/
def positions (p : α → Bool) : Nat → List α → List Nat
  | _, [] => []
  | n, a :: as => if p a then n :: positions p (n + 1) as else positions p (n + 1) as

theorem positions_concat (p : α → Bool) (n : Nat) (as : List α) (a : α) :
    positions p n (as ++ [a]) = positions p n as ++ if p a then [n + as.length] else [] := by
  induction as generalizing n with
  | nil => by_cases h : p a <;> simp [positions, h]
  | cons b as ih =>
    have hn : n + 1 + as.length = n + (as.length + 1) := by omega
    by_cases h : p b <;> simp [positions, h, ih, hn]

theorem positions_map (p : β → Bool) (g : α → β) (n : Nat) (as : List α) :
    positions p n (as.map g) = positions (fun a => p (g a)) n as := by
  induction as generalizing n with
  | nil => rfl
  | cons a as ih => simp [positions, ih]

/-- The positions are those of the elements that pass the test. -/
theorem mem_positions {p : α → Bool} {n : Nat} {as : List α} {i : Nat} :
    i ∈ positions p n as ↔ ∃ j a, as[j]? = some a ∧ p a = true ∧ i = n + j := by
  induction as generalizing n with
  | nil => simp [positions]
  | cons b as ih =>
    have hb : i ∈ positions p n (b :: as) ↔ p b = true ∧ i = n ∨ i ∈ positions p (n + 1) as := by
      by_cases h : p b <;> simp [positions, h]
    rw [hb, ih]
    constructor
    · rintro (⟨hp, rfl⟩ | ⟨j, a, ha, hp, rfl⟩)
      · exact ⟨0, b, rfl, hp, rfl⟩
      · exact ⟨j + 1, a, ha, hp, by omega⟩
    · rintro ⟨j, a, ha, hp, rfl⟩
      cases j with
      | zero => cases ha; exact .inl ⟨hp, rfl⟩
      | succ j => exact .inr ⟨j, a, ha, hp, by omega⟩

/-- They increase, so none is repeated. -/
theorem positions_increasing (p : α → Bool) (n : Nat) (as : List α) :
    (positions p n as).Pairwise (· < ·) := by
  induction as generalizing n with
  | nil => exact .nil
  | cons a as ih =>
    rw [positions]
    split
    · refine List.pairwise_cons.2 ⟨fun i hi => ?_, ih (n + 1)⟩
      obtain ⟨j, _, _, _, rfl⟩ := mem_positions.1 hi
      omega
    · exact ih (n + 1)

/-- Looking up the positions of a list is filtering it. -/
theorem filterMap_positions (p : α → Bool) (f : α → Option β) (pre as : List α) :
    (positions p pre.length as).filterMap (fun i => (pre ++ as)[i]?.bind f) =
      as.filterMap fun a => if p a then f a else none := by
  induction as generalizing pre with
  | nil => rfl
  | cons a as ih =>
    have hi := ih (pre ++ [a])
    simp only [List.length_append, List.length_singleton, List.append_assoc,
      List.singleton_append] at hi
    by_cases h : p a <;> simp [positions, h, List.filterMap_cons, hi]

end Positions

/-! ### Files -/

namespace Index

/-- Filing a position under several channels lengthens the bucket of each, once for
every occurrence. -/
theorem bucket_fileAll (ms : List Modifier) (ix : Index) (i : Nat) (c : Channel) :
    (ms.foldl (fun ix m => ix.file m.source i) ix).bucket c =
      ix.bucket c ++ List.replicate ((ms.map (·.source)).count c) i := by
  induction ms generalizing ix with
  | nil => simp
  | cons m ms ih =>
    rw [List.foldl_cons, ih, bucket_file, List.map_cons, List.count_cons]
    by_cases h : c = m.source
    · subst h
      simp [List.replicate_succ]
    · have hm : (m.source == c) = false := by simpa using Ne.symm h
      simp [h, hm]

end Index

/-- A list without a repeat has no element twice, and none that was seen before. -/
theorem firstRepeat_eq_none_iff {seen cs : List Channel} :
    firstRepeat seen cs = none ↔ cs.Nodup ∧ ∀ c ∈ cs, c ∉ seen := by
  induction cs generalizing seen with
  | nil => simp [firstRepeat]
  | cons c cs ih =>
    rw [firstRepeat]
    split
    · next h => simp [h]
    · next h =>
      rw [ih, List.nodup_cons]
      constructor
      · rintro ⟨hd, hs⟩
        refine ⟨⟨fun hc => hs c hc List.mem_cons_self, hd⟩, ?_⟩
        rintro d (_ | ⟨_, hd'⟩)
        · exact h
        · exact fun hseen => hs d hd' (List.mem_cons_of_mem c hseen)
      · rintro ⟨⟨hc, hd⟩, hs⟩
        refine ⟨hd, fun d hd' hseen => ?_⟩
        rcases List.mem_cons.1 hseen with rfl | hseen
        · exact hc hd'
        · exact hs d (List.mem_cons_of_mem c hd') hseen

/-- The repeat that is found is the earliest one: what stands before it is neither repeated nor
seen. -/
theorem firstRepeat_eq_some_iff {seen cs : List Channel} {c : Channel} :
    firstRepeat seen cs = some c ↔ ∃ before after, cs = before ++ c :: after ∧ before.Nodup ∧
      (∀ d ∈ before, d ∉ seen) ∧ (c ∈ before ∨ c ∈ seen) := by
  induction cs generalizing seen with
  | nil => simp [firstRepeat]
  | cons d cs ih =>
    rw [firstRepeat]
    split
    · next hd =>
      rw [Option.some.injEq]
      constructor
      · rintro rfl
        exact ⟨[], cs, rfl, .nil, List.forall_mem_nil _, .inr hd⟩
      · rintro ⟨before, after, hsplit, -, hseen, -⟩
        cases before with
        | nil => exact (List.cons.inj hsplit).1
        | cons b before =>
          cases hsplit
          exact absurd hd (hseen d List.mem_cons_self)
    · next hd =>
      rw [ih]
      constructor
      · rintro ⟨before, after, rfl, hdistinct, hseen, hc⟩
        have hbefore : ∀ b ∈ before, b ≠ d ∧ b ∉ seen := by simpa using hseen
        refine ⟨d :: before, after, rfl, List.nodup_cons.2 ⟨fun h => (hbefore d h).1 rfl, hdistinct⟩,
          List.forall_mem_cons.2 ⟨hd, fun b hb => (hbefore b hb).2⟩, ?_⟩
        rw [List.mem_cons] at hc
        rw [List.mem_cons, or_assoc]
        exact or_left_comm.1 hc
      · rintro ⟨before, after, hsplit, hdistinct, hseen, hc⟩
        cases before with
        | nil =>
          cases hsplit
          exact absurd (hc.resolve_left List.not_mem_nil) hd
        | cons b before =>
          cases hsplit
          obtain ⟨hnew, hdistinct⟩ := List.nodup_cons.1 hdistinct
          refine ⟨before, after, rfl, hdistinct, fun x hx => ?_, ?_⟩
          · rw [List.mem_cons, not_or]
            exact ⟨fun h => hnew (h ▸ hx), hseen x (List.mem_cons_of_mem d hx)⟩
          · rw [List.mem_cons, or_assoc] at hc
            rw [List.mem_cons]
            exact or_left_comm.1 hc

namespace Rule

/-- A rule is valid if it divides by nothing zero and names no modifier channel twice. -/
theorem validate_eq_ok_iff {r : Rule} :
    r.validate = .ok () ↔ r.dividesByZero = false ∧ (r.modifiers.map (·.source)).Nodup := by
  have hn : firstRepeat [] (r.modifiers.map (·.source)) = none ↔
      (r.modifiers.map (·.source)).Nodup ∧ ∀ c ∈ r.modifiers.map (·.source), c ∉ [] :=
    firstRepeat_eq_none_iff
  rw [validate]
  cases r.dividesByZero with
  | true => simp
  | false =>
    cases h : firstRepeat [] (r.modifiers.map (·.source)) with
    | none => simpa [h] using hn
    | some c => simpa [h] using hn

/-- A zero divisor is named before a repeated modifier channel. -/
theorem validate_eq_error_iff {r : Rule} {error : RuleError} : r.validate = .error error ↔
    r.dividesByZero = true ∧ error = .zeroDivisor ∨ r.dividesByZero = false ∧
      ∃ c, firstRepeat [] (r.modifiers.map (·.source)) = some c ∧ error = .duplicateModifier c := by
  rw [validate]
  cases r.dividesByZero with
  | true => simp [eq_comm]
  | false => cases firstRepeat [] (r.modifiers.map (·.source)) <;> simp [eq_comm]

/-- The rule has a modifier on a channel. -/
def gatedBy (r : Rule) (c : Channel) : Bool := c ∈ r.modifiers.map (·.source)

/-- A rule without a modifier on a channel does not notice the channel. -/
theorem isActive_congr {r : Rule} {t u : Live}
    (h : ∀ c, r.gatedBy c = true → t.value c = u.value c) : r.isActive t = r.isActive u := by
  have hm : ∀ m ∈ r.modifiers, m.holds t = m.holds u := by
    intro m hm
    have hv : t.value m.source = u.value m.source :=
      h m.source (by simpa [gatedBy] using ⟨m, hm, rfl⟩)
    rw [Modifier.holds, Modifier.holds, hv]
  rw [Bool.eq_iff_iff, isActive, isActive, List.all_eq_true, List.all_eq_true]
  exact forall_congr' fun m => forall_congr' fun h => by rw [hm m h]

end Rule

/-! ### The indices of a table -/

namespace Remapper

/-- Every bucket holds the positions of the rules concerned with its channel. -/
structure Indexed (r : Remapper) : Prop where
  bySource (c : Channel) :
    r.bySource.bucket c = positions (fun s => s.rule.source = c) 0 r.slots
  byModifier (c : Channel) :
    r.byModifier.bucket c = positions (fun s => s.rule.gatedBy c) 0 r.slots

/-- A position is filed under the source of its rule. -/
theorem Indexed.mem_bySource {r : Remapper} (h : r.Indexed) {c : Channel} {i : Nat} :
    i ∈ r.bySource.bucket c ↔ ∃ s, r.slots[i]? = some s ∧ s.rule.source = c := by
  rw [h.bySource, mem_positions]
  constructor
  · rintro ⟨j, s, hs, hc, rfl⟩
    exact ⟨s, by rwa [Nat.zero_add], of_decide_eq_true hc⟩
  · rintro ⟨s, hs, hc⟩
    exact ⟨i, s, hs, decide_eq_true hc, (Nat.zero_add i).symm⟩

/-- A position is filed under every channel that its rule has a modifier on. -/
theorem Indexed.mem_byModifier {r : Remapper} (h : r.Indexed) {c : Channel} {i : Nat} :
    i ∈ r.byModifier.bucket c ↔ ∃ s, r.slots[i]? = some s ∧ s.rule.gatedBy c = true := by
  rw [h.byModifier, mem_positions]
  constructor
  · rintro ⟨j, s, hs, hc, rfl⟩
    exact ⟨s, by rwa [Nat.zero_add], hc⟩
  · rintro ⟨s, hs, hc⟩
    exact ⟨i, s, hs, hc, (Nat.zero_add i).symm⟩

/-- No bucket holds a position twice or out of order. -/
theorem Indexed.increasing {r : Remapper} (h : r.Indexed) (c : Channel) :
    (r.bySource.bucket c).Pairwise (· < ·) ∧ (r.byModifier.bucket c).Pairwise (· < ·) := by
  rw [h.bySource, h.byModifier]
  exact ⟨positions_increasing _ 0 r.slots, positions_increasing _ 0 r.slots⟩

theorem indexed_empty : Indexed {} := ⟨fun _ => rfl, fun _ => rfl⟩

/-- The table with a rule registered last, its gate set from the live table. -/
def extend (r : Remapper) (rule : Rule) (live : Live) : Remapper where
  slots := r.slots ++ [⟨rule, rule.isActive live⟩]
  bySource := r.bySource.file rule.source r.slots.length
  byModifier := rule.modifiers.foldl (fun ix m => ix.file m.source r.slots.length) r.byModifier

theorem add_of_valid (r : Remapper) {rule : Rule} (h : rule.validate = .ok ()) (live : Live) :
    r.add rule live = .ok (r.extend rule live) := by
  rw [add, h]
  rfl

theorem add_of_invalid (r : Remapper) {rule : Rule} {error : RuleError}
    (h : rule.validate = .error error) (live : Live) : r.add rule live = .error error := by
  rw [add, h]
  rfl

theorem register_of_valid (r : Remapper) {rule : Rule} (h : rule.validate = .ok ()) (live : Live) :
    r.register rule live = (r.extend rule live, .ok ⟨r.slots.length⟩) := by
  rw [register, add_of_valid r h]

theorem register_of_invalid (r : Remapper) {rule : Rule} {error : RuleError}
    (h : rule.validate = .error error) (live : Live) :
    r.register rule live = (r, .error error) := by
  rw [register, add_of_invalid r h]

theorem Indexed.extend {r : Remapper} (h : r.Indexed) {rule : Rule}
    (hv : rule.validate = .ok ()) (live : Live) : (r.extend rule live).Indexed := by
  refine ⟨fun c => ?_, fun c => ?_⟩
  · rw [Remapper.extend, Index.bucket_file, h.bySource, h.bySource, positions_concat]
    by_cases hc : c = rule.source
    · simp [hc]
    · simp [hc, Ne.symm hc]
  · -- without a repeat a channel counts at most once, so the position is filed at most once
    have hn := (Rule.validate_eq_ok_iff.1 hv).2
    rw [Remapper.extend, Index.bucket_fileAll, h.byModifier, positions_concat, hn.count]
    by_cases hc : c ∈ rule.modifiers.map (·.source) <;> simp [Rule.gatedBy, hc]

end Remapper

end ControllerRemap
