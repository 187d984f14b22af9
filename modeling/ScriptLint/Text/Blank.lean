/-!
# White space

The characters with the property White_Space, and the three things the library does with them:
cutting them off both ends of a text, splitting a text into words, and collapsing every run of
them to one space.
-/

namespace ScriptLint.Text

def isBlank (c : Char) : Bool :=
  let n := c.toNat
  (9 ≤ n && n ≤ 13) || n == 0x20 || n == 0x85 || n == 0xA0 || n == 0x1680 ||
    (0x2000 ≤ n && n ≤ 0x200A) || n == 0x2028 || n == 0x2029 || n == 0x202F || n == 0x205F ||
    n == 0x3000

/-- A text without the blanks at its front. -/
def trimStart (chars : List Char) : List Char :=
  chars.dropWhile isBlank

/-- A text without the blanks at its back. -/
def trimEnd (chars : List Char) : List Char :=
  (chars.reverse.dropWhile isBlank).reverse

/-- A text without the blanks at either end. -/
def trim (chars : List Char) : List Char :=
  trimEnd (trimStart chars)

/-- A string without the blanks at either end. -/
def trimString (text : String) : String :=
  String.ofList (trim text.toList)

/-- The maximal runs of characters that are not blank, in order. -/
def words (chars : List Char) : List (List Char) :=
  (chars.splitBy fun left right => isBlank left == isBlank right).filter
    fun run => !run.all isBlank

/-- The words of a text, one space apart. -/
def collapse (chars : List Char) : List Char :=
  List.intercalate [' '] (words chars)

/-- The words of a string, one space apart. -/
def collapseString (text : String) : String :=
  String.ofList (collapse text.toList)

def byteLength (chars : List Char) : Nat :=
  chars.foldl (fun size c => size + c.utf8Size) 0

theorem foldl_utf8Size (size : Nat) (chars : List Char) :
    chars.foldl (fun size c => size + c.utf8Size) size = size + byteLength chars := by
  induction chars generalizing size with
  | nil => rfl
  | cons c rest ih =>
      have first := ih (size + c.utf8Size)
      have second := ih (0 + c.utf8Size)
      simp only [byteLength, List.foldl_cons] at first second ⊢
      omega

@[simp]
theorem byteLength_nil : byteLength [] = 0 :=
  rfl

@[simp]
theorem byteLength_cons (c : Char) (rest : List Char) :
    byteLength (c :: rest) = c.utf8Size + byteLength rest := by
  rw [byteLength, List.foldl_cons, foldl_utf8Size, Nat.zero_add]

@[simp]
theorem byteLength_append (first second : List Char) :
    byteLength (first ++ second) = byteLength first + byteLength second := by
  induction first with
  | nil => simp
  | cons c rest ih => simp [ih, Nat.add_assoc]

/-- Every character takes a byte, so only the empty text takes none. -/
theorem byteLength_pos {chars : List Char} (filled : chars ≠ []) : 0 < byteLength chars := by
  cases chars with
  | nil => exact absurd rfl filled
  | cons c rest =>
      have positive := c.utf8Size_pos
      rw [byteLength_cons]
      omega

end ScriptLint.Text
