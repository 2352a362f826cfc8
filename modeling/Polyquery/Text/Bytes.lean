/-!
# Byte offsets

Positions in texts are counted in bytes of UTF-8.

* `byteLength` - the length of a text in bytes;
* `takeBytes`, `dropBytes` - the text before and after an offset;
* `slice` - the text between two offsets;
* `byteLength_append`, `slice_append` - offsets and concatenation.
-/

namespace Polyquery.Text

/-- The length of a text in bytes. -/
def byteLength : List Char → Nat
  | [] => 0
  | c :: rest => c.utf8Size + byteLength rest

/-- The text after the first `n` bytes. -/
def dropBytes (n : Nat) : List Char → List Char
  | [] => []
  | c :: rest => if n = 0 then c :: rest else dropBytes (n - c.utf8Size) rest

/-- The text of the first `n` bytes. -/
def takeBytes (n : Nat) : List Char → List Char
  | [] => []
  | c :: rest => if n = 0 then [] else c :: takeBytes (n - c.utf8Size) rest

/-- The text from byte `start` up to byte `stop`. -/
def slice (start stop : Nat) (cs : List Char) : List Char :=
  takeBytes (stop - start) (dropBytes start cs)

@[simp] theorem byteLength_nil : byteLength [] = 0 := rfl

@[simp] theorem byteLength_cons (c : Char) (cs : List Char) :
    byteLength (c :: cs) = c.utf8Size + byteLength cs := rfl

@[simp] theorem byteLength_append (a b : List Char) :
    byteLength (a ++ b) = byteLength a + byteLength b := by
  induction a with
  | nil => simp
  | cons c a ih => simp [ih, Nat.add_assoc]

theorem dropBytes_append (a b : List Char) : dropBytes (byteLength a) (a ++ b) = b := by
  induction a with
  | nil => cases b <;> simp [dropBytes]
  | cons c a ih =>
    have hc := c.utf8Size_pos
    have hne : c.utf8Size + byteLength a ≠ 0 := by omega
    simp only [byteLength_cons, List.cons_append, dropBytes, if_neg hne, Nat.add_sub_cancel_left,
      ih]

theorem takeBytes_append (a b : List Char) : takeBytes (byteLength a) (a ++ b) = a := by
  induction a with
  | nil => cases b <;> simp [takeBytes]
  | cons c a ih =>
    have hc := c.utf8Size_pos
    have hne : c.utf8Size + byteLength a ≠ 0 := by omega
    simp only [byteLength_cons, List.cons_append, takeBytes, if_neg hne, Nat.add_sub_cancel_left,
      ih]

/-- The slice over the middle of three parts is that part. -/
theorem slice_append (a b c : List Char) :
    slice (byteLength a) (byteLength a + byteLength b) (a ++ (b ++ c)) = b := by
  simp [slice, dropBytes_append, takeBytes_append]

end Polyquery.Text
