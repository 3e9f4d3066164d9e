import ObservableGen.Text.Alphabetic
set_option autoImplicit false

/-!
White space and trimming: the characters with the Unicode property White_Space, and what is left
of a text without them at its ends.
-/
namespace ObservableGen.Text

def blankRanges : List (Nat × Nat) :=
  [(0x9, 0xD), (0x20, 0x20), (0x85, 0x85), (0xA0, 0xA0), (0x1680, 0x1680), (0x2000, 0x200A),
    (0x2028, 0x2029), (0x202F, 0x202F), (0x205F, 0x205F), (0x3000, 0x3000)]

def isBlank (c : Char) : Bool :=
  inRanges blankRanges c.toNat

def trimStart (text : List Char) : List Char :=
  text.dropWhile isBlank

def trimEnd (text : List Char) : List Char :=
  (text.reverse.dropWhile isBlank).reverse

def trim (text : List Char) : List Char :=
  trimEnd (trimStart text)

def trimmed (text : String) : String :=
  String.ofList (trim text.toList)

def isBlankText (text : String) : Bool :=
  text.toList.all isBlank

-- What begins without white space is kept from its first character on, and what is kept begins so.
theorem trim_start_of_bare (text : List Char) (bare : ∀ c, text.head? = some c → isBlank c = false) :
    trimStart text = text := by
  cases text with
  | nil => rfl
  | cons c rest => rw [trimStart, List.dropWhile_cons_of_neg (by simp [bare c rfl])]

theorem head_trim_start (text : List Char) (c : Char) (first : (trimStart text).head? = some c) :
    isBlank c = false := by
  have kept := List.head?_dropWhile_not isBlank text
  rw [trimStart] at first
  simpa [first] using kept

theorem trim_end_of_bare (text : List Char) (bare : ∀ c, text.getLast? = some c → isBlank c = false) :
    trimEnd text = text := by
  have kept := trim_start_of_bare text.reverse (by simpa using bare)
  rw [trimStart] at kept
  rw [trimEnd, kept, List.reverse_reverse]

theorem last_trim_end (text : List Char) (c : Char) (last : (trimEnd text).getLast? = some c) :
    isBlank c = false := by
  rw [trimEnd, List.getLast?_reverse] at last
  exact head_trim_start text.reverse c last

theorem prefix_of_trim_end (text : List Char) : trimEnd text <+: text := by
  have rest := List.dropWhile_suffix isBlank (l := text.reverse)
  rwa [← List.reverse_prefix, List.reverse_reverse] at rest

theorem last_trim (text : List Char) (c : Char) (last : (trim text).getLast? = some c) : isBlank c = false :=
  last_trim_end (trimStart text) c last

theorem head_trim (text : List Char) (c : Char) (first : (trim text).head? = some c) : isBlank c = false := by
  obtain ⟨rest, whole⟩ := prefix_of_trim_end (trimStart text)
  apply head_trim_start text c
  rw [← whole, List.head?_append, ← trim, first]
  rfl

theorem trim_subset (text : List Char) : trim text ⊆ text := by
  intro c inside
  exact (List.dropWhile_suffix isBlank).subset ((prefix_of_trim_end (trimStart text)).subset inside)

theorem trim_trim (text : List Char) : trim (trim text) = trim text := by
  rw [trim, trim_start_of_bare (trim text) (head_trim text), trim_end_of_bare (trim text) (last_trim text)]

theorem trim_blank_front (front text : List Char) (blank : ∀ c ∈ front, isBlank c = true) :
    trim (front ++ text) = trim text := by
  rw [trim, trimStart, List.dropWhile_append_of_pos blank, ← trimStart, ← trim]

end ObservableGen.Text
