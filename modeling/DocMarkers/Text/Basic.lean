set_option autoImplicit false

namespace DocMarkers

abbrev Text := List Char

namespace Text

def splitOn (separator : Char) : Text → List Text
  | [] => [[]]
  | c :: rest =>
    if c = separator then [] :: splitOn separator rest
    else match splitOn separator rest with
      | [] => [[c]]
      | part :: parts => (c :: part) :: parts

def cut (separator : Char) : Text → Text × Option Text
  | [] => ([], none)
  | c :: rest =>
    if c = separator then ([], some rest)
    else (c :: (cut separator rest).1, (cut separator rest).2)

def join (separator : Text) : List Text → Text
  | [] => []
  | [part] => part
  | part :: parts => part ++ separator ++ join separator parts

-- The number of items that a bound keeps; a negative bound counts from the end.
def keptBy (bound : Int) (size : Nat) : Nat :=
  if 0 ≤ bound then min bound.toNat size else size - bound.natAbs

def upTo (bound : Int) (text : Text) : Text :=
  text.take (keptBy bound text.length)

-- One pass from the left. `skip` counts the characters still covered by the last match.
def replaceFrom (needle value : Text) : Nat → Text → Text
  | _, [] => []
  | skip + 1, _ :: rest => replaceFrom needle value skip rest
  | 0, c :: rest =>
    if needle.isPrefixOf (c :: rest) then
      value ++ replaceFrom needle value (needle.length - 1) rest
    else c :: replaceFrom needle value 0 rest

def replaceAll (needle value text : Text) : Text :=
  replaceFrom needle value 0 text

def ofNat (n : Nat) : Text := (Nat.repr n).toList

def ofInt : Int → Text
  | .ofNat n => ofNat n
  | .negSucc n => '-' :: ofNat (n + 1)

theorem splitOn_ne_nil (separator : Char) (text : Text) : splitOn separator text ≠ [] := by
  fun_cases splitOn separator text <;> simp [*]

theorem join_cons (separator part : Text) {parts : List Text} (more : parts ≠ []) :
    join separator (part :: parts) = part ++ separator ++ join separator parts := by
  cases parts with
  | nil => exact absurd rfl more
  | cons => rfl

theorem join_splitOn (separator : Char) (text : Text) :
    join [separator] (splitOn separator text) = text := by
  fun_induction splitOn separator text with
  | case1 => rfl
  | case2 rest ih => rw [join_cons _ _ (splitOn_ne_nil _ _), ih]; rfl
  | case3 c rest _ none => exact absurd none (splitOn_ne_nil _ _)
  | case4 c rest _ part parts split ih =>
    rw [split] at ih
    rw [← ih]
    cases parts <;> simp [join]

theorem length_splitOn (separator : Char) (text : Text) :
    (splitOn separator text).length = text.count separator + 1 := by
  fun_induction splitOn separator text with
  | case1 => rfl
  | case2 rest ih => simp [ih]
  | case3 c rest _ none => exact absurd none (splitOn_ne_nil _ _)
  | case4 c rest other part parts split ih =>
    rw [split] at ih
    simpa [List.count_cons, other] using ih

theorem not_mem_of_mem_splitOn {separator : Char} {text part : Text}
    (member : part ∈ splitOn separator text) : separator ∉ part := by
  fun_induction splitOn separator text generalizing part with
  | case1 => simp_all
  | case2 rest ih =>
    rcases List.mem_cons.1 member with rfl | member
    · simp
    · exact ih member
  | case3 c rest _ none => exact absurd none (splitOn_ne_nil _ _)
  | case4 c rest other front parts split ih =>
    rw [split] at ih
    rcases List.mem_cons.1 member with rfl | member
    · simpa [Ne.symm other] using ih List.mem_cons_self
    · exact ih (List.mem_cons_of_mem _ member)

theorem cut_append (separator : Char) (text : Text) :
    (cut separator text).1 ++ ((cut separator text).2.elim [] fun rest => separator :: rest) =
      text := by
  fun_induction cut separator text with
  | case1 => rfl
  | case2 => rfl
  | case3 c rest _ ih => simpa using ih

theorem not_mem_cut (separator : Char) (text : Text) : separator ∉ (cut separator text).1 := by
  fun_induction cut separator text with
  | case1 => simp
  | case2 => simp
  | case3 c rest other ih => simpa [Ne.symm other] using ih

end Text

end DocMarkers
