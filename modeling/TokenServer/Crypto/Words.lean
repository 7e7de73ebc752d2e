import TokenServer.Text.Utf8

/-!
Words of 64 bits and the bytes that they are made of, with the most significant byte first or last.
-/

namespace TokenServer.Words

def ofBigEndian (bytes : Bytes) : UInt64 :=
  bytes.foldl (fun word byte => word <<< 8 ||| byte.toUInt64) 0

def ofLittleEndian (bytes : Bytes) : UInt64 :=
  bytes.foldr (fun byte word => word <<< 8 ||| byte.toUInt64) 0

/-- The lowest bytes of a value, the least significant first. -/
def littleEndian : Nat → Nat → Bytes
  | 0, _ => []
  | count + 1, value => UInt8.ofNat (value % 256) :: littleEndian count (value / 256)

def bigEndian (count value : Nat) : Bytes := (littleEndian count value).reverse

theorem length_littleEndian (count value : Nat) : (littleEndian count value).length = count := by
  induction count generalizing value with
  | zero => rfl
  | succ count ih => simp [littleEndian, ih]

/-- Reads words off bytes, eight at a time; fewer than eight at the end are left out. -/
def read (word : Bytes → UInt64) : Bytes → List UInt64
  | a :: b :: c :: d :: e :: f :: g :: h :: rest => word [a, b, c, d, e, f, g, h] :: read word rest
  | _ => []

/-- Cuts bytes into blocks of `size + 1`; the last block may be shorter. -/
def blocks (size : Nat) (bytes : Bytes) : List Bytes :=
  if bytes.isEmpty then [] else bytes.take (size + 1) :: blocks size (bytes.drop (size + 1))
termination_by bytes.length
decreasing_by
  cases bytes with
  | nil => contradiction
  | cons =>
    simp only [List.length_drop, List.length_cons]
    omega

def rotateRight (word : UInt64) (count : UInt64) : UInt64 :=
  word >>> count ||| word <<< (64 - count)

end TokenServer.Words
