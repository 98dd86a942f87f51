/-! Cutting texts at offsets that count the bytes of their encoding in UTF-8. -/
namespace BranchVersion.Text

def byteCount : List Char → Nat
  | [] => 0
  | c :: s => c.utf8Size + byteCount s

/-- The characters that begin in the first `n` bytes. -/
def takeBytes (n : Nat) : List Char → List Char
  | [] => []
  | c :: s => if n = 0 then [] else c :: takeBytes (n - c.utf8Size) s

def dropBytes (n : Nat) : List Char → List Char
  | [] => []
  | c :: s => if n = 0 then c :: s else dropBytes (n - c.utf8Size) s

def sliceBytes (start n : Nat) (s : List Char) : List Char := takeBytes n (dropBytes start s)

end BranchVersion.Text
