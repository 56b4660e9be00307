import Linura.Lib.Split

/-!
# Texts of lines

A text that ends each of its lines with a line feed, with a trailer that names the digest of
what comes before, and lists of words with a separator between them.  Reading takes back what
writing put there, provided that no part holds a character that separates the parts.
-/

namespace Linura.Lib

/-! ### Lines -/

/-- A line without the carriage return at its end. -/
def stripReturn (line : List Char) : List Char :=
  if line.getLast? = some '\r' then line.dropLast else line

/-- `str::lines`.  What follows the last line feed is a line if it is not empty, and keeps its
carriage return. -/
def lines (text : String) : List String :=
  let parts := text.toList.splitOn '\n'
  parts.dropLast.map (fun line => .ofList (stripReturn line)) ++
    (parts.getLast?.filter (· ≠ [])).toList.map .ofList

/-- The characters of lines, each ended by a line feed. -/
def unlinesChars (list : List String) : List Char := list.flatMap fun line => line.toList ++ ['\n']

/-- The text of these lines, each ended by a line feed. -/
def unlines (list : List String) : String := .ofList (unlinesChars list)

/-- The text stays on one line. -/
def OnOneLine (text : String) : Prop := '\n' ∉ text.toList ∧ '\r' ∉ text.toList

theorem all_iff_onOneLine {text : String} :
    text.toList.all (fun c => c != '\n' && c != '\r') = true ↔ OnOneLine text := by
  rw [List.all_eq_true]
  constructor
  · intro each
    constructor
    · intro member
      exact absurd (each _ member) (by decide)
    · intro member
      exact absurd (each _ member) (by decide)
  · rintro ⟨noFeed, noReturn⟩ c member
    simp only [Bool.and_eq_true, bne_iff_ne, ne_eq]
    exact ⟨fun feed => noFeed (feed ▸ member), fun carriage => noReturn (carriage ▸ member)⟩

instance (text : String) : Decidable (OnOneLine text) := decidable_of_iff _ all_iff_onOneLine

/-- The text stays on one line and has at most so many bytes. -/
def Fits (bound : Nat) (text : String) : Prop := OnOneLine text ∧ text.utf8ByteSize ≤ bound

instance (bound : Nat) (text : String) : Decidable (Fits bound text) :=
  inferInstanceAs (Decidable (_ ∧ _))

variable {bound : Nat}

theorem Fits.mono {bound' : Nat} {text : String} (fits : Fits bound text) (le : bound ≤ bound') :
    Fits bound' text := ⟨fits.1, fits.2.trans le⟩

theorem Fits.append {bound' : Nat} {text text' : String} (fits : Fits bound text)
    (fits' : Fits bound' text') : Fits (bound + bound') (text ++ text') := by
  constructor
  · simp only [OnOneLine, String.toList_append, List.mem_append, not_or]
    exact ⟨⟨fits.1.1, fits'.1.1⟩, ⟨fits.1.2, fits'.1.2⟩⟩
  · rw [String.utf8ByteSize_append]
    exact Nat.add_le_add fits.2 fits'.2

theorem stripReturn_eq_self {line : List Char} (plain : '\r' ∉ line) : stripReturn line = line := by
  unfold stripReturn
  rw [if_neg]
  intro last
  exact plain (List.mem_of_getLast? last)

variable {list : List String}

/-- Lines are split as they were joined. -/
theorem splitOn_unlinesChars (oneLine : ∀ line ∈ list, OnOneLine line) :
    (unlinesChars list).splitOn '\n' = list.map String.toList ++ [[]] := by
  induction list with
  | nil => rfl
  | cons line rest ih =>
    obtain ⟨plain, others⟩ := List.forall_mem_cons.mp oneLine
    have split : unlinesChars (line :: rest) = line.toList ++ '\n' :: unlinesChars rest := by
      simp [unlinesChars]
    rw [split, List.splitOn_append_cons_self_of_not_mem plain.1, ih others]
    rfl

/-- Lines are read back. -/
theorem lines_unlines (oneLine : ∀ line ∈ list, OnOneLine line) : lines (unlines list) = list := by
  have parts := splitOn_unlinesChars oneLine
  simp only [lines, unlines, String.toList_ofList, parts, List.dropLast_concat, List.map_map,
    List.getLast?_concat]
  have back : list.map ((fun line => String.ofList (stripReturn line)) ∘ String.toList) = list := by
    conv_rhs => rw [← List.map_id list]
    refine List.map_congr_left fun line member => ?_
    rw [Function.comp_apply, stripReturn_eq_self (oneLine line member).2, String.ofList_toList]
    rfl
  rw [back]
  simp

theorem utf8ByteSize_unlines (list : List String) :
    (unlines list).utf8ByteSize = (list.map fun line => line.utf8ByteSize + 1).sum := by
  induction list with
  | nil => rfl
  | cons line rest ih =>
    have split : unlines (line :: rest) = line ++ "\n" ++ unlines rest := by
      simp only [unlines, unlinesChars, List.flatMap_cons, String.ofList_append,
        String.ofList_toList]
    rw [split, String.utf8ByteSize_append, String.utf8ByteSize_append, ih,
      List.map_cons, List.sum_cons]
    rfl

theorem sum_sizes_le (short : ∀ text ∈ list, text.utf8ByteSize ≤ bound) :
    (list.map fun text => text.utf8ByteSize + 1).sum ≤ list.length * (bound + 1) := by
  induction list with
  | nil => exact Nat.zero_le _
  | cons text rest ih =>
    obtain ⟨here, others⟩ := List.forall_mem_cons.mp short
    have later := ih others
    rw [List.map_cons, List.sum_cons, List.length_cons, Nat.add_one_mul]
    omega

/-! ### Trailers -/

/-- Where the last occurrence of a pattern that is not empty starts. -/
def rfindChars (pattern : List Char) : List Char → Option Nat
  | [] => none
  | c :: rest =>
    match rfindChars pattern rest with
    | some index => some (index + 1)
    | none => if pattern.isPrefixOf (c :: rest) then some 0 else none

/-- The text before the last line that starts with `name=`, and the value there.  The first line
does not count.  There is no value if the line is not ended. -/
def splitTrailer (text name : String) : Option (String × Option String) :=
  (rfindChars ('\n' :: (name ++ "=").toList) text.toList).map fun index =>
    (.ofList (text.toList.take (index + 1)),
      (stripLead (.ofList (text.toList.drop (index + 1))) (name ++ "=")).bind (stripTail · "\n"))

/-- The last character alone is no occurrence of a longer pattern. -/
theorem rfindChars_concat {first second : Char} {pattern chars : List Char}
    (absent : first ∉ chars) :
    rfindChars (first :: second :: pattern) (chars ++ [first]) = none := by
  induction chars with
  | nil => simp [rfindChars, List.isPrefixOf]
  | cons c rest ih =>
    obtain ⟨other, others⟩ := not_or.mp (mt List.mem_cons.mpr absent)
    rw [List.cons_append, rfindChars, ih others]
    simp [List.isPrefixOf, other]

theorem rfindChars_append {pattern tail : List Char} (front : List Char) {index : Nat}
    (found : rfindChars pattern tail = some index) :
    rfindChars pattern (front ++ tail) = some (front.length + index) := by
  induction front with
  | nil => simpa using found
  | cons c rest ih =>
    rw [List.cons_append, rfindChars, ih]
    simp only [List.length_cons, Option.some.injEq]
    omega

theorem rfindChars_self {first second : Char} {pattern value : List Char}
    (plain : first ∉ second :: pattern) (plain' : first ∉ value) :
    rfindChars (first :: second :: pattern) (first :: second :: pattern ++ value ++ [first]) =
      some 0 := by
  have absent : first ∉ second :: pattern ++ value := by
    rw [List.mem_append, not_or]
    exact ⟨plain, plain'⟩
  have none : rfindChars (first :: second :: pattern)
    (second :: pattern ++ value ++ [first]) = none :=
    rfindChars_concat absent
  simp only [List.cons_append, List.append_assoc] at none ⊢
  rw [rfindChars, none]
  simp [List.isPrefixOf]

@[simp]
theorem stripLead_append (lead rest : String) : stripLead (lead ++ rest) lead = some rest := by
  have starts : startsWith (lead ++ rest) lead = true := by
    rw [startsWith, String.toList_append, List.isPrefixOf_iff_prefix]
    exact List.prefix_append _ _
  rw [stripLead, if_pos starts, String.toList_append, List.drop_left, String.ofList_toList]

@[simp]
theorem stripTail_append (rest tail : String) : stripTail (rest ++ tail) tail = some rest := by
  have ends : endsWith (rest ++ tail) tail = true := by
    rw [endsWith, String.toList_append, List.isSuffixOf_iff_suffix]
    exact List.suffix_append _ _
  rw [stripTail, if_pos ends, String.toList_append, List.length_append, Nat.add_sub_cancel,
    List.take_left, String.ofList_toList]

/-- The trailer of lines is read back. -/
theorem splitTrailer_append {name value : String} (some_ : list ≠ [])
    (plainName : '\n' ∉ name.toList) (plain : '\n' ∉ value.toList) :
    splitTrailer (unlines list ++ (name ++ "=" ++ value ++ "\n")) name =
      some (unlines list, some value) := by
  obtain ⟨lead, last, rfl⟩ : ∃ lead last, list = lead ++ [last] :=
    ⟨list.dropLast, list.getLast some_, (List.dropLast_append_getLast some_).symm⟩
  -- The payload ends with a line feed, at which the pattern starts.
  have payload : (unlines (lead ++ [last])).toList = (unlinesChars lead ++ last.toList) ++
      ['\n'] := by
    simp [unlines, unlinesChars]
  obtain ⟨second, pattern, lead_eq⟩ : ∃ second pattern, (name ++ "=").toList =
      second :: pattern := by
    cases shape : (name ++ "=").toList with
    | nil => simp at shape
    | cons second pattern => exact ⟨second, pattern, rfl⟩
  have plainLead : '\n' ∉ second :: pattern := by
    rw [← lead_eq, String.toList_append, List.mem_append]
    rintro (inName | equals)
    · exact plainName inName
    · simp at equals
  have text : (unlines (lead ++ [last]) ++ (name ++ "=" ++ value ++ "\n")).toList =
      (unlinesChars lead ++ last.toList) ++
        ('\n' :: second :: pattern ++ value.toList ++ ['\n']) := by
    rw [String.toList_append, payload, String.toList_append, String.toList_append, lead_eq]
    simp
  have found :=
    rfindChars_append (unlinesChars lead ++ last.toList) (rfindChars_self plainLead plain)
  have split : (unlines (lead ++ [last])).toList.length =
      (unlinesChars lead ++ last.toList).length + 1 := by
    rw [payload, List.length_append, List.length_singleton]
  rw [splitTrailer, lead_eq, text, found, Option.map_some, Nat.add_zero, ← split, ← text,
    String.toList_append, List.take_left, List.drop_left, String.ofList_toList,
    String.ofList_toList,
    String.append_assoc, stripLead_append, Option.bind_some, stripTail_append]

/-! ### Numbers -/

/-- `str::parse` for an unsigned number below a bound.  A plus sign and leading zeros are accepted.
-/
def parseUnsigned (bound : Nat) (text : String) : Option Nat :=
  let digits := match text.toList with
    | '+' :: rest => rest
    | chars => chars
  if digits.isEmpty || !digits.all Char.isDigit then none
  else
    let value := Nat.ofDigitChars 10 digits 0
    if value < bound then some value else none

/-- A number that is read is within its bound. -/
theorem parseUnsigned_lt {n : Nat} {text : String} (parsed : parseUnsigned bound text = some n) :
    n < bound := by
  unfold parseUnsigned at parsed
  extract_lets digits value at parsed
  by_cases digit : (digits.isEmpty || !digits.all Char.isDigit) = true
  · rw [if_pos digit] at parsed
    cases parsed
  · rw [if_neg digit] at parsed
    by_cases lt : value < bound
    · rw [if_pos lt] at parsed
      exact Option.some.inj parsed ▸ lt
    · rw [if_neg lt] at parsed
      cases parsed

theorem isDigit_of_mem_toString {n : Nat} {c : Char} (member : c ∈ (toString n).toList) :
    c.isDigit = true := by
  rw [Nat.toString_eq_ofList_toDigits, String.toList_ofList] at member
  exact Nat.isDigit_of_mem_toDigits (by decide) (by decide) member

theorem utf8ByteSize_toString_le {n digits : Nat} (positive : 0 < digits)
    (within : n < 10 ^ digits) :
    (toString n).utf8ByteSize ≤ digits := by
  have ascii : ∀ c ∈ (toString n).toList, c.utf8Size = 1 := by
    intro c member
    have digit := isDigit_of_mem_toString member
    rw [Char.utf8Size_eq_one_iff]
    simp only [Char.isDigit, Bool.and_eq_true, decide_eq_true_eq] at digit
    exact UInt32.le_trans digit.2 (by decide)
  rw [utf8ByteSize_eq_length ascii, Nat.toString_eq_ofList_toDigits, String.toList_ofList]
  exact (Nat.length_toDigits_le_iff (by decide) positive).mpr within

/-- A number is read back. -/
theorem parseUnsigned_toString {n : Nat} (within : n < bound) :
    parseUnsigned bound (toString n) = some n := by
  have digits : ∀ c ∈ Nat.toDigits 10 n, c.isDigit = true := fun c member =>
    Nat.isDigit_of_mem_toDigits (by decide) (by decide) member
  have unsigned : (match Nat.toDigits 10 n with
      | '+' :: rest => rest
      | chars => chars) = Nat.toDigits 10 n := by
    split
    · rename_i rest shape
      have plus := digits '+' (shape ▸ List.mem_cons_self)
      exact absurd plus (by decide)
    · rfl
  unfold parseUnsigned
  rw [Nat.toString_eq_ofList_toDigits, String.toList_ofList]
  simp only [unsigned]
  rw [if_neg, Nat.ofDigitChars_ten_toDigits, if_pos within]
  simp only [Bool.or_eq_true, List.isEmpty_iff, Bool.not_eq_true', not_or, Bool.not_eq_false,
    List.all_eq_true]
  exact ⟨Nat.toDigits_ne_nil, digits⟩

/-! ### Words with a separator -/

/-- The words with a separator between them. -/
def joinWords (separator : Char) (words : List String) : String :=
  .ofList ([separator].intercalate (words.map String.toList))

variable {separator : Char}

variable {words : List String}

/-- Words that do not hold the separator are read back. -/
theorem splitAll_joinWords (some_ : words ≠ []) (apart : ∀ word ∈ words, separator ∉ word.toList) :
    splitAll (joinWords separator words) separator = words := by
  have parts : ([separator].intercalate (words.map String.toList)).splitOn separator =
      words.map String.toList := by
    refine List.splitOn_intercalate separator ?_ ?_
    · intro chars member
      obtain ⟨word, known, rfl⟩ := List.mem_map.mp member
      exact apart word known
    · simpa using some_
  rw [splitAll, joinWords, String.toList_ofList, parts, List.map_map]
  conv_rhs => rw [← List.map_id words]
  exact List.map_congr_left fun word _ => String.ofList_toList

/-- A character of joined words is one of theirs or a separator. -/
theorem mem_joinWords {c : Char} (member : c ∈ (joinWords separator words).toList) :
    c = separator ∨ ∃ word ∈ words, c ∈ word.toList := by
  rw [joinWords, String.toList_ofList] at member
  induction words with
  | nil => simp at member
  | cons word rest ih =>
    cases rest with
    | nil =>
      refine .inr ⟨word, List.mem_singleton_self _, ?_⟩
      simpa using member
    | cons second rest =>
      simp only [List.map_cons, List.intercalate_cons_cons, List.mem_append,
        List.mem_singleton] at member
      rcases member with (here | rfl) | later
      · exact .inr ⟨word, List.mem_cons_self, here⟩
      · exact .inl rfl
      · rcases ih (by simpa using later) with same | ⟨word', known, found⟩
        · exact .inl same
        · exact .inr ⟨word', List.mem_cons_of_mem _ known, found⟩

theorem utf8ByteSize_joinWords_le (ascii : separator.utf8Size = 1) (words : List String) :
    (joinWords separator words).utf8ByteSize ≤ (words.map fun word =>
      word.utf8ByteSize + 1).sum := by
  induction words with
  | nil => exact Nat.le_refl _
  | cons word rest ih =>
    cases rest with
    | nil => simp [joinWords]
    | cons next later =>
      have split : joinWords separator (word :: next :: later) =
          word ++ .ofList [separator] ++ joinWords separator (next :: later) := by
        apply String.toList_inj.mp
        simp [joinWords, List.intercalate]
      have single : (String.ofList [separator]).utf8ByteSize =
        (String.ofList [separator]).toList.length :=
        utf8ByteSize_eq_length (by simpa using ascii)
      have one : (String.ofList [separator]).utf8ByteSize = 1 := by simpa using single
      rw [split, String.utf8ByteSize_append, String.utf8ByteSize_append, one,
        List.map_cons, List.sum_cons]
      omega

/-- Words that fit are joined to a text that fits. -/
theorem fits_joinWords (ascii : separator.utf8Size = 1)
    (plain : separator ≠ '\n' ∧ separator ≠ '\r') (fits : ∀ word ∈ words, Fits bound word) :
    Fits (words.length * (bound + 1)) (joinWords separator words) := by
  refine ⟨⟨?_, ?_⟩, ?_⟩
  · intro member
    rcases mem_joinWords member with same | ⟨word, known, found⟩
    · exact plain.1 same.symm
    · exact (fits word known).1.1 found
  · intro member
    rcases mem_joinWords member with same | ⟨word, known, found⟩
    · exact plain.2 same.symm
    · exact (fits word known).1.2 found
  · exact (utf8ByteSize_joinWords_le ascii words).trans (sum_sizes_le fun word known =>
      (fits word known).2)

end Linura.Lib
