import ControllerRemap.Event.Live

/-! What a list of events leaves behind: the last value on every channel, and the live
table after the list. A consumer of output events sees no more of a channel than the
last value, so statements about held outputs are statements about `lastOn`. -/

namespace ControllerRemap

namespace Event

theorem kind_of_isReport {e : Event} (h : e.isReport = true) : e.channel.kind = .syn := by
  rw [eq_of_beq h]
  rfl

theorem isReport_of_ne_syn {e : Event} (h : e.channel.kind ≠ .syn) : e.isReport = false :=
  Bool.eq_false_iff.2 fun he => h (kind_of_isReport he)

/-- The value of the last event on a channel. -/
def lastOn (c : Channel) (es : List Event) : Option Int32 :=
  (es.filter (·.channel = c)).getLast?.map (·.value)

@[simp] theorem lastOn_nil (c : Channel) : lastOn c [] = none := rfl

@[simp] theorem lastOn_append (c : Channel) (es fs : List Event) :
    lastOn c (es ++ fs) = (lastOn c fs).or (lastOn c es) := by
  simp [lastOn, List.getLast?_append, Option.map_or]

theorem lastOn_singleton (c : Channel) (e : Event) :
    lastOn c [e] = if e.channel = c then some e.value else none := by
  by_cases h : e.channel = c <;> simp [lastOn, h]

theorem lastOn_eq_none {c : Channel} {es : List Event} (h : ∀ e ∈ es, e.channel ≠ c) :
    lastOn c es = none := by
  have hf : es.filter (·.channel = c) = [] := by simpa using h
  simp [lastOn, hf]

/-- Events on other channels do not count. -/
theorem lastOn_append_of_ne {c : Channel} {fs : List Event} (es : List Event)
    (h : ∀ e ∈ fs, e.channel ≠ c) : lastOn c (es ++ fs) = lastOn c es := by
  rw [lastOn_append, lastOn_eq_none h, Option.none_or]

end Event

namespace Live

/-- Synchronisation carries no value. -/
theorem apply_of_syn (t : Live) {e : Event} (h : e.channel.kind = .syn) : t.apply e = t := if_pos h

/-- An event that is no synchronisation sets the value of its channel. -/
theorem value_apply (t : Live) {e : Event} (h : e.channel.kind ≠ .syn) (d : Channel) :
    (t.apply e).value d = if d = e.channel then e.value else t.value d := by
  rw [apply, if_neg h, value_set]

theorem value_apply_self (t : Live) {e : Event} (h : e.channel.kind ≠ .syn) :
    (t.apply e).value e.channel = e.value := by
  rw [value_apply t h, if_pos rfl]

theorem value_apply_of_ne (t : Live) {e : Event} {d : Channel} (h : d ≠ e.channel) :
    (t.apply e).value d = t.value d := by
  by_cases hs : e.channel.kind = .syn
  · rw [apply_of_syn t hs]
  · rw [value_apply t hs, if_neg h]

/-- A list that holds every channel. -/
theorem exists_all_channels : ∃ cs : List Channel, ∀ c, c ∈ cs := by
  have hnumber (n : UInt16) : ∃ m ∈ List.range 65536, UInt16.ofNat m = n :=
    ⟨n.toNat, List.mem_range.2 n.toNat_lt, UInt16.ofNat_toNat⟩
  refine ⟨(List.range 65536).flatMap fun k =>
    (List.range 65536).map fun n => ⟨⟨UInt16.ofNat k⟩, UInt16.ofNat n⟩, fun c => ?_⟩
  obtain ⟨k, hk, hkind⟩ := hnumber c.kind.number
  obtain ⟨n, hn, hcode⟩ := hnumber c.code
  exact List.mem_flatMap.2 ⟨k, hk, List.mem_map.2 ⟨n, hn, by rw [hkind, hcode]⟩⟩

/-- Channels that are set one after the other have the values set. -/
theorem value_foldl_set (input : Channel → Int32) (cs : List Channel) (t : Live) (d : Channel) :
    (cs.foldl (fun t c => t.set c (input c)) t).value d =
      if d ∈ cs then input d else t.value d := by
  induction cs generalizing t with
  | nil => simp
  | cons c cs ih =>
    rw [List.foldl_cons, ih, value_set]
    by_cases hc : d = c
    · simp [hc]
    · simp [hc]

/-- Every reading of the channels is that of some live table, so what holds of all live
tables holds of all readings. -/
theorem exists_value_eq (input : Channel → Int32) : ∃ t : Live, t.value = input := by
  obtain ⟨cs, hcs⟩ := exists_all_channels
  refine ⟨cs.foldl (fun t c => t.set c (input c)) {}, funext fun d => ?_⟩
  rw [value_foldl_set, if_pos (hcs d)]

/-- A live table after a list of events. -/
def after (t : Live) (es : List Event) : Live := es.foldl apply t

@[simp] theorem after_nil (t : Live) : t.after [] = t := rfl

theorem after_concat (t : Live) (es : List Event) (e : Event) :
    t.after (es ++ [e]) = (t.after es).apply e := by
  simp [after]

end Live

end ControllerRemap
