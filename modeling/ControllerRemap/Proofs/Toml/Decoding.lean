import ControllerRemap.Proofs.Event.Name
import ControllerRemap.Proofs.Toml.Sections
import ControllerRemap.Toml.Choice
import Mathlib

/-! Decoding what has been encoded. Whether a value comes back hangs on the channels in it alone. Fields
are put together here as they are in a decoder: what a record reads from its entries follows from what
each of its fields reads from its own. -/

namespace ControllerRemap.Toml

/-! ### Results -/

/-- A result that is `a` if all of the channels are named, and an error otherwise. -/
def Recovers {ε α : Type} (r : Except ε α) (a : α) (cs : List Channel) : Prop :=
  ∀ b, r = .ok b ↔ (∀ c ∈ cs, c.IsNamed) ∧ a = b

namespace Recovers

variable {ε α β : Type} {r : Except ε α} {a : α} {cs ds : List Channel}

theorem ok (a : α) : Recovers (.ok a : Except ε α) a [] := by
  intro b
  simp

theorem of_ok (h : r = .ok a) : Recovers r a [] := h ▸ .ok a

theorem map (h : Recovers r a cs) (g : α → β) : Recovers (r.map g) (g a) cs := by
  intro b
  have hmap : r.map g = .ok b ↔ ∃ x, r = .ok x ∧ g x = b := by
    cases r <;> simp [Except.map]
  rw [hmap]
  constructor
  · rintro ⟨x, hx, rfl⟩
    obtain ⟨hcs, rfl⟩ := (h x).mp hx
    exact ⟨hcs, rfl⟩
  · rintro ⟨hcs, rfl⟩
    exact ⟨a, (h a).mpr ⟨hcs, rfl⟩, rfl⟩

theorem bind (h : Recovers r a cs) {f : α → Except ε β} {b : β} (hf : Recovers (f a) b ds) :
    Recovers (r >>= f) b (cs ++ ds) := by
  intro d
  have hbind : r >>= f = .ok d ↔ ∃ x, r = .ok x ∧ f x = .ok d := by
    cases r <;> simp [Bind.bind, Except.bind]
  rw [hbind]
  constructor
  · rintro ⟨x, hx, hd⟩
    obtain ⟨hcs, rfl⟩ := (h x).mp hx
    obtain ⟨hds, rfl⟩ := (hf d).mp hd
    exact ⟨List.forall_mem_append.mpr ⟨hcs, hds⟩, rfl⟩
  · rintro ⟨hcs, rfl⟩
    obtain ⟨hcs, hds⟩ := List.forall_mem_append.mp hcs
    exact ⟨a, (h a).mpr ⟨hcs, rfl⟩, (hf b).mpr ⟨hds, rfl⟩⟩

end Recovers

/-! ### Values -/

/-- A change of the values of a document that keeps what a decoder can see of them: tables may change
the order of their entries, and arrays their form. -/
structure Rearrangement (φ : Value → Value) : Prop where
  scalar : ∀ {v}, v.IsScalar → φ v = v
  array : ∀ form vs, ∃ form', φ (.array form vs) = .array form' (vs.map φ)
  table : ∀ {t}, (keys t).Nodup →
    ∃ u, φ (.table t) = .table u ∧ (keys u).Nodup ∧ ∀ k, u.lookup k = (t.lookup k).map φ

theorem rearrangement_id : Rearrangement id where
  scalar _ := rfl
  array form vs := ⟨form, by rw [List.map_id, id]⟩
  table h := ⟨_, rfl, h, fun k => by rw [Option.map_id, id]⟩

theorem rearrangement_arranged : Rearrangement Value.arranged where
  scalar := arranged_of_isScalar
  array _ items := ⟨_, congrArg (Value.array _) (arrangedItems_eq_map items)⟩
  table h := ⟨_, rfl, nodup_keys_arrangedTable h, lookup_arrangedTable h⟩

/-- A value that can be printed, and from which a decoder recovers `a` after a change of the document
around it. -/
structure Carries {α : Type} (φ : Value → Value) (depth : Nat) (decode : Decoder α) (v : Value) (a : α)
    (cs : List Channel) : Prop where
  fits : v.Fits depth
  recovers : Recovers (decode (φ v)) a cs

namespace Carries

variable {α : Type} {φ : Value → Value} {depth : Nat} {decode : Decoder α} {v : Value} {a : α}
  {cs : List Channel}

theorem of_isScalar (hφ : Rearrangement φ) (hv : v.IsScalar) (h : Recovers (decode v) a cs) :
    Carries φ depth decode v a cs where
  fits := by
    cases v with
    | array => cases hv
    | table => cases hv
    | _ => exact hv
  recovers := by rwa [hφ.scalar hv]

theorem some (h : Carries φ depth decode v a cs) :
    Carries φ depth (Decoder.some decode) v (Option.some a) cs :=
  ⟨h.fits, h.recovers.map _⟩

end Carries

namespace Decoder

variable {α : Type} {φ : Value → Value} {depth : Nat} {decode : Decoder α} {encode : α → Value}
  {channels : α → List Channel}

theorem recovers_items (as : List α) (h : ∀ a, Recovers (decode (φ (encode a))) a (channels a)) :
    Recovers (items decode ((as.map encode).map φ)) as (as.flatMap channels) := by
  induction as with
  | nil => exact .ok []
  | cons a as ih =>
    have htail : Recovers ((items decode ((as.map encode).map φ)) >>= fun rest => pure (a :: rest))
        (a :: as) (as.flatMap channels ++ []) := ih.bind (.ok (a :: as))
    rw [List.append_nil] at htail
    exact (h a).bind htail

theorem fits_list (htable : ∀ a, (encode a).isTable = true) (h : ∀ a, (encode a).Fits depth)
    (as : List α) : (Value.array .bracketed (as.map encode)).Fits depth := by
  have hentries : ∀ a, ∃ t, encode a = .table t ∧ Printable depth t := by
    intro a
    have hfits := h a
    have htable := htable a
    cases hv : encode a with
    | table t =>
      rw [hv] at hfits
      exact ⟨t, rfl, hfits⟩
    | _ => rw [hv] at htable; cases htable
  choose table htable hprint using hentries
  cases as with
  | nil => exact .inl ⟨rfl, fun v hv => by cases hv⟩
  | cons a as =>
    refine .inr ⟨table a, as.map table, ?_, ?_⟩
    · rw [← List.map_cons, List.map_map]
      exact List.map_congr_left fun b _ => htable b
    · rw [← List.map_cons, List.forall_mem_map]
      exact fun b _ => hprint b

/-- A list of records is a list of tables, or empty and written within a line. -/
theorem carries_list (hφ : Rearrangement φ) (htable : ∀ a, (encode a).isTable = true)
    (h : ∀ a, Carries φ depth decode (encode a) a (channels a)) (as : List α) :
    Carries φ depth (list decode) (.array .bracketed (as.map encode)) as (as.flatMap channels) where
  fits := fits_list htable (fun a => (h a).fits) as
  recovers := by
    obtain ⟨form, hform⟩ := hφ.array .bracketed (as.map encode)
    rw [hform, list]
    exact recovers_items as fun a => (h a).recovers

end Decoder

/-! ### Fields -/

variable {α β : Type}

/-- What the fields read passes their checks. -/
def Fields.Sound (f : Fields α) : Prop :=
  ∀ missing t a, f.read missing t = .ok a →
    ∀ p ∈ f.checks, ∀ v, t.lookup p.1 = some v → p.2 v = .ok ()

/-- Names that are distinct and written without quotes. -/
def IsTidy (names : List String) : Prop := names.Nodup ∧ ∀ k ∈ names, isBareKey k = true

instance : DecidablePred IsTidy := fun names =>
  inferInstanceAs (Decidable (names.Nodup ∧ ∀ k ∈ names, isBareKey k = true))

/-- The fields read `a` from whatever table has the entries of `t` under their names. -/
structure Spells (φ : Value → Value) (depth : Nat) (f : Fields α) (a : α) (t : Table)
    (cs : List Channel) : Prop where
  sublist : (keys t).Sublist f.names
  fits : ∀ e ∈ t, e.2.Fits depth
  recovers : f.names.Nodup → ∀ u : Table, (∀ k ∈ f.names, u.lookup k = (t.lookup k).map φ) →
    ∀ missing, Recovers (f.read missing u) a cs
  sound : f.Sound

namespace Fields

theorem sound_single (name : String) (decode : Decoder α)
    (absent : (String → DecodeError) → Except DecodeError α) : (single name decode absent).Sound := by
  intro missing t a hread p hp v hv
  obtain rfl := List.mem_singleton.mp hp
  simp only [single] at hread hv ⊢
  rw [hv] at hread
  change decode v = .ok a at hread
  rw [hread]
  rfl

theorem Sound.map {f : Fields α} (h : f.Sound) (g : α → β) : (g <$> f).Sound := by
  intro missing t b hread
  change (f.read missing t).map g = .ok b at hread
  cases hf : f.read missing t with
  | error e => rw [hf] at hread; cases hread
  | ok a => exact h missing t a hf

theorem Sound.seq {f : Fields (α → β)} {x : Fields α} (hf : f.Sound) (hx : x.Sound) :
    (f <*> x).Sound := by
  intro missing t b hread
  change (f.read missing t >>= fun g => x.read missing t >>= fun a => pure (g a)) = .ok b at hread
  cases hg : f.read missing t with
  | error e => rw [hg] at hread; cases hread
  | ok g =>
    cases ha : x.read missing t with
    | error e => rw [hg, ha] at hread; cases hread
    | ok a =>
      intro p hp
      rcases List.mem_append.mp hp with hp | hp
      · exact hf missing t g hg p hp
      · exact hx missing t a ha p hp

theorem check_eq_ok {f : Fields α} {t : Table}
    (h : ∀ e ∈ t, ∀ test, f.checks.lookup e.1 = some test → test e.2 = .ok ()) :
    f.check t = .ok () := by
  induction t with
  | nil => rfl
  | cons e t ih =>
    obtain ⟨k, v⟩ := e
    have ht := ih fun e he => h e (List.mem_cons_of_mem _ he)
    rw [check]
    cases htest : f.checks.lookup k with
    | none => exact ht
    | some test =>
      simp only [h (k, v) List.mem_cons_self test htest]
      exact ht

/-- A table is first checked and then read; the reading alone decides what comes out. -/
theorem recovers_ofTable {f : Fields α} (hf : f.Sound) (hnames : f.names.Nodup) {t : Table}
    (ht : (keys t).Nodup) {a : α} {cs : List Channel}
    (h : ∀ missing, Recovers (f.read missing t) a cs) : Recovers (f.ofTable t) a cs := by
  intro b
  rw [← h .missingField b]
  constructor
  · intro hb
    cases hcheck : f.check t with
    | error e => rw [ofTable, hcheck] at hb; cases hb
    | ok _ =>
      rw [ofTable, hcheck] at hb
      exact hb
  · intro hb
    have hcheck : f.check t = .ok () := by
      refine check_eq_ok fun e he test htest => ?_
      exact hf _ t b hb (e.1, test) ((lookup_eq_some_iff hnames).mp htest) e.2
        ((lookup_eq_some_iff ht).mpr he)
    rw [ofTable, hcheck]
    exact hb

end Fields

namespace Spells

variable {φ : Value → Value} {depth : Nat}

theorem single (name : String) {decode : Decoder α} {v : Value} {a : α} {cs : List Channel}
    (h : Carries φ depth decode v a cs) (absent : (String → DecodeError) → Except DecodeError α) :
    Spells φ depth (.single name decode absent) a [(name, v)] cs where
  sublist := .refl _
  fits := List.forall_mem_singleton.mpr h.fits
  recovers _ u hu missing := by
    have hname := hu name List.mem_cons_self
    rw [List.lookup_cons_self, Option.map_some] at hname
    simp only [Fields.single, hname]
    exact h.recovers
  sound := Fields.sound_single name decode absent

theorem required (name : String) {decode : Decoder α} {v : Value} {a : α} {cs : List Channel}
    (h : Carries φ depth decode v a cs) : Spells φ depth (.required name decode) a [(name, v)] cs :=
  .single name h _

theorem absent (name : String) (decode : Decoder α) (a : α) :
    Spells φ depth (.orElse name decode a) a [] [] where
  sublist := List.nil_sublist _
  fits := List.forall_mem_nil _
  recovers _ u hu missing := by
    have hname := hu name List.mem_cons_self
    simp only [Fields.orElse, Fields.single, hname, List.lookup_nil, Option.map_none]
    exact .ok a
  sound := Fields.sound_single name decode _

theorem map {f : Fields α} {a : α} {t : Table} {cs : List Channel} (g : α → β)
    (h : Spells φ depth f a t cs) : Spells φ depth (g <$> f) (g a) t cs where
  sublist := h.sublist
  fits := h.fits
  recovers hnames u hu missing := (h.recovers hnames u hu missing).map g
  sound := h.sound.map g

theorem seq {f : Fields (α → β)} {x : Fields α} {g : α → β} {a : α} {t u : Table}
    {cs ds : List Channel} (hf : Spells φ depth f g t cs) (hx : Spells φ depth x a u ds) :
    Spells φ depth (f <*> x) (g a) (t ++ u) (cs ++ ds) where
  sublist := by
    have hnames : (f <*> x).names = f.names ++ x.names := List.map_append
    rw [hnames, keys, List.map_append]
    exact hf.sublist.append hx.sublist
  fits := List.forall_mem_append.mpr ⟨hf.fits, hx.fits⟩
  recovers hnames w hw missing := by
    have happend : (f <*> x).names = f.names ++ x.names := List.map_append
    rw [happend] at hnames hw
    obtain ⟨hfn, hxn, hdisjoint⟩ := List.nodup_append'.mp hnames
    -- no name is of both parts, so each part finds its own entries and none of the other's
    have hwf : ∀ k ∈ f.names, w.lookup k = (t.lookup k).map φ := by
      intro k hk
      have hu : u.lookup k = none := lookup_eq_none fun hku => hdisjoint hk (hx.sublist.subset hku)
      rw [hw k (List.mem_append_left _ hk), List.lookup_append, hu, Option.or_none]
    have hwx : ∀ k ∈ x.names, w.lookup k = (u.lookup k).map φ := by
      intro k hk
      have ht : t.lookup k = none := lookup_eq_none fun hkt => hdisjoint (hf.sublist.subset hkt) hk
      rw [hw k (List.mem_append_right _ hk), List.lookup_append, ht, Option.none_or]
    have hlast : Recovers (x.read missing w >>= fun a => pure (g a)) (g a) (ds ++ []) :=
      (hx.recovers hxn w hwx missing).bind (.ok (g a))
    rw [List.append_nil] at hlast
    exact (hf.recovers hfn w hwf missing).bind hlast
  sound := hf.sound.seq hx.sound

theorem of_eq {f : Fields α} {a : α} {t : Table} {cs ds : List Channel} (h : Spells φ depth f a t cs)
    (hcs : cs = ds) : Spells φ depth f a t ds := hcs ▸ h

variable {f : Fields α} {a : α} {t : Table} {cs : List Channel}

theorem printable (h : Spells φ depth f a t cs) (hnames : IsTidy f.names)
    (hline : t.any (!·.2.hasSection) = true) : Printable (depth + 1) t :=
  .of_fits (h.sublist.nodup hnames.1) (fun k hk => hnames.2 k (h.sublist.subset hk)) hline h.fits

theorem recovers_ofTable (h : Spells φ depth f a t cs) (hnames : f.names.Nodup) {u : Table}
    (hu : (keys u).Nodup) (hlookup : ∀ k ∈ f.names, u.lookup k = (t.lookup k).map φ) :
    Recovers (f.ofTable u) a cs :=
  Fields.recovers_ofTable h.sound hnames hu (h.recovers hnames u hlookup)

theorem record (hφ : Rearrangement φ) (h : Spells φ depth f a t cs) (hnames : IsTidy f.names)
    (hline : t.any (!·.2.hasSection) = true) (type : String) (whole : Bool) :
    Carries φ (depth + 1) (f.record type whole) (.table t) a cs where
  fits := h.printable hnames hline
  recovers := by
    obtain ⟨u, hu, hnodup, hlookup⟩ := hφ.table (h.sublist.nodup hnames.1)
    rw [hu, Fields.record]
    exact h.recovers_ofTable hnames.1 hnodup fun k _ => hlookup k

end Spells

/-! ### Tagged choices -/

namespace Decoder

variable {φ : Value → Value} (hφ : Rearrangement φ) {depth : Nat} {type key name : String}
  {cases : List (String × Case α)} {a : α}
include hφ

theorem tag_name {c : Case α} (h : cases.lookup name = Option.some c) :
    tag cases (φ (.string name)) = .ok c := by
  rw [hφ.scalar (v := .string name) trivial, tag, variant, h]

theorem carries_bare (h : cases.lookup name = Option.some (.bare a)) (hkey : isBareKey key = true) :
    Carries φ (depth + 1) (tagged type key cases) (.table [(key, .string name)]) a [] where
  fits := .of_fits (List.nodup_singleton key) (List.forall_mem_singleton.mpr hkey) rfl
    (List.forall_mem_singleton.mpr trivial)
  recovers := by
    obtain ⟨u, hu, -, hlookup⟩ := hφ.table (t := [(key, .string name)]) (List.nodup_singleton key)
    have hkey := hlookup key
    rw [List.lookup_cons_self, Option.map_some] at hkey
    refine .of_ok ?_
    rw [hu, tagged, hkey]
    simp only [tag_name hφ h]
    rfl

theorem carries_fields {title : String} {f : Fields α} {t : Table} {cs : List Channel}
    (h : cases.lookup name = Option.some (.fields title f)) (hf : Spells φ depth f a t cs)
    (hnames : IsTidy (key :: f.names)) :
    Carries φ (depth + 1) (tagged type key cases) (.table ((key, .string name) :: t)) a cs := by
  have hsublist : (keys ((key, .string name) :: t)).Sublist (key :: f.names) := hf.sublist.cons_cons key
  obtain ⟨hkey, hfields⟩ := List.nodup_cons.mp hnames.1
  refine ⟨?_, ?_⟩
  · exact .of_fits (hsublist.nodup hnames.1) (fun k hk => hnames.2 k (hsublist.subset hk)) rfl
      (List.forall_mem_cons.mpr ⟨trivial, hf.fits⟩)
  · obtain ⟨u, hu, hnodup, hlookup⟩ := hφ.table (hsublist.nodup hnames.1)
    have htag := hlookup key
    rw [List.lookup_cons_self, Option.map_some] at htag
    have hrest : Recovers (f.ofTable (u.filter (·.1 != key))) a cs := by
      refine hf.recovers_ofTable hfields ((List.filter_sublist.map _).nodup hnodup) fun k hk => ?_
      have hne : k ≠ key := fun hk' => hkey (hk' ▸ hk)
      have hbeq : (k == key) = false := beq_eq_false_iff_ne.mpr hne
      rw [lookup_filter_ne hne, hlookup k, List.lookup_cons, hbeq]
    rw [hu, tagged, htag]
    simp only [tag_name hφ h]
    exact hrest

end Decoder

end ControllerRemap.Toml
