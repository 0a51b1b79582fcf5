import ControllerRemap.Event.ByChannel

/-! Positions in a list, filed by channel. A bucket holds positions in the order in
which they were filed; a channel without positions has an empty bucket. -/

namespace ControllerRemap

structure Index where
  buckets : ByChannel (List Nat) := {}

namespace Index

def bucket (ix : Index) (c : Channel) : List Nat := (ix.buckets.get? c).getD []

/-- Files a position last in the bucket of a channel. -/
def file (ix : Index) (c : Channel) (i : Nat) : Index :=
  ⟨ix.buckets.put c (ix.bucket c ++ [i])⟩

@[simp] theorem bucket_empty (c : Channel) : bucket {} c = [] := rfl

/-- Filing under a channel lengthens its own bucket only. -/
theorem bucket_file (ix : Index) (c d : Channel) (i : Nat) :
    (ix.file c i).bucket d = if d = c then ix.bucket c ++ [i] else ix.bucket d := by
  simp only [bucket, file, ByChannel.get?_put]
  split <;> rfl

end Index

end ControllerRemap
