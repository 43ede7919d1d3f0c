import Mathlib.Data.List.Basic

/-!
# JSON

Values of JSON, how they are printed without white space, and a reader for such texts.

Numbers and strings keep their text.  A `Number` has no exponent, and a `Text` has no
character that would have to be escaped.  `parse_print` is the round trip.
-/

namespace Json

universe u

def quote : UInt8 := 0x22
def comma : UInt8 := 0x2C
def colon : UInt8 := 0x3A
def openBracket : UInt8 := 0x5B
def closeBracket : UInt8 := 0x5D
def openBrace : UInt8 := 0x7B
def closeBrace : UInt8 := 0x7D

/-! ## Values -/

def isDigit (b : UInt8) : Bool := 0x30 ≤ b && b ≤ 0x39

/-- Digits, and no zero in front of another one. -/
def isInteger : List UInt8 → Bool
  | [] => false
  | b :: bs => isDigit b && bs.all isDigit && (b ≠ 0x30 || bs.isEmpty)

/-- A point and digits, or nothing. -/
def isFraction : List UInt8 → Bool
  | [] => true
  | b :: bs => b = 0x2E && bs.all isDigit && !bs.isEmpty

def dropMinus : List UInt8 → List UInt8
  | [] => []
  | b :: bs => if b = 0x2D then bs else b :: bs

def isNumber (text : List UInt8) : Bool :=
  isInteger ((dropMinus text).takeWhile isDigit) && isFraction ((dropMinus text).dropWhile isDigit)

/-- Neither a quote nor a backslash nor a control character. -/
def isPlain (b : UInt8) : Bool := 0x20 ≤ b && b ≠ quote && b ≠ 0x5C

structure Number where
  text : List UInt8
  valid : isNumber text = true

structure Text where
  chars : List UInt8
  plain : chars.all isPlain = true

inductive Value where
  | string (text : Text)
  | number (number : Number)
  | array (elements : List Value)
  | object (members : List (Text × Value))

/-! ## Printing -/

def Text.print (t : Text) : List UInt8 := quote :: (t.chars ++ [quote])

mutual

def print : Value → List UInt8
  | .string t => t.print
  | .number n => n.text
  | .array es => openBracket :: ([comma].intercalate (printElements es) ++ [closeBracket])
  | .object ms => openBrace :: ([comma].intercalate (printMembers ms) ++ [closeBrace])

def printElements : List Value → List (List UInt8)
  | [] => []
  | v :: vs => print v :: printElements vs

def printMember : Text × Value → List UInt8
  | (k, v) => k.print ++ colon :: print v

def printMembers : List (Text × Value) → List (List UInt8)
  | [] => []
  | m :: ms => printMember m :: printMembers ms

end

/-! ## Reading -/

/-- A string, behind its first quote. -/
def parseChars (s : List UInt8) : Option (Text × List UInt8) :=
  if h : (s.takeWhile isPlain).all isPlain = true ∧ (s.dropWhile isPlain).head? = some quote then
    some (⟨s.takeWhile isPlain, h.1⟩, (s.dropWhile isPlain).tail)
  else none

def isNumberByte (b : UInt8) : Bool := isDigit b || b = 0x2D || b = 0x2E

def parseNumber (s : List UInt8) : Option (Number × List UInt8) :=
  if h : isNumber (s.takeWhile isNumberByte) = true then
    some (⟨s.takeWhile isNumberByte, h⟩, s.dropWhile isNumberByte)
  else none

/-- Items with commas between them, up to `close`. -/
def parseItems {α : Type u} (item : List UInt8 → Option (α × List UInt8)) (close : UInt8) :
    Nat → List UInt8 → Option (List α × List UInt8)
  | 0, _ => none
  | fuel + 1, s => do
    let (x, rest) ← item s
    if rest.head? = some close then some ([x], rest.tail)
    else if rest.head? = some comma then do
      let (xs, rest) ← parseItems item close fuel rest.tail
      some (x :: xs, rest)
    else none

def parseMember (value : List UInt8 → Option (Value × List UInt8)) (s : List UInt8) :
    Option ((Text × Value) × List UInt8) :=
  if s.head? = some quote then do
    let (k, rest) ← parseChars s.tail
    if rest.head? = some colon then do
      let (v, rest) ← value rest.tail
      some ((k, v), rest)
    else none
  else none

def parseValue : Nat → List UInt8 → Option (Value × List UInt8)
  | 0, _ => none
  | _, [] => none
  | fuel + 1, b :: s =>
    if b = quote then do
      let (t, rest) ← parseChars s
      some (.string t, rest)
    else if b = openBracket then
      if s.head? = some closeBracket then some (.array [], s.tail)
      else do
        let (es, rest) ← parseItems (parseValue fuel) closeBracket fuel s
        some (.array es, rest)
    else if b = openBrace then
      if s.head? = some closeBrace then some (.object [], s.tail)
      else do
        let (ms, rest) ← parseItems (parseMember (parseValue fuel)) closeBrace fuel s
        some (.object ms, rest)
    else do
      let (n, rest) ← parseNumber (b :: s)
      some (.number n, rest)

/-- The value of a text with nothing behind it. -/
def parse (s : List UInt8) : Option Value := do
  let (v, rest) ← parseValue s.length s
  if rest = [] then some v else none

/-! ## Round trip -/

/-- A number ends where this follows. -/
def Ends (rest : List UInt8) : Prop := ∀ b, rest.head? = some b → isNumberByte b = false

theorem takeWhile_append {p : UInt8 → Bool} {text rest : List UInt8} (h : text.all p = true)
    (hrest : ∀ b, rest.head? = some b → p b = false) :
    (text ++ rest).takeWhile p = text ∧ (text ++ rest).dropWhile p = rest := by
  have hall : ∀ b ∈ text, p b = true := List.all_eq_true.1 h
  have hstop : rest.takeWhile p = [] ∧ rest.dropWhile p = rest := by
    cases rest with
    | nil => exact ⟨rfl, rfl⟩
    | cons b rest =>
      have hb : ¬p b = true := by
        rw [hrest b rfl]
        exact Bool.false_ne_true
      exact ⟨List.takeWhile_cons_of_neg hb, List.dropWhile_cons_of_neg hb⟩
  rw [List.takeWhile_append_of_pos hall, List.dropWhile_append_of_pos hall, hstop.1, hstop.2,
    List.append_nil]
  exact ⟨rfl, rfl⟩

theorem parseChars_print (t : Text) (rest : List UInt8) :
    parseChars (t.chars ++ quote :: rest) = some (t, rest) := by
  obtain ⟨htake, hdrop⟩ := @takeWhile_append isPlain t.chars (quote :: rest) t.plain
    fun b hb => by rw [← Option.some.inj hb]; decide
  unfold parseChars
  simp only [htake, hdrop]
  exact dif_pos ⟨t.plain, rfl⟩

theorem isNumberByte_of_isDigit {b : UInt8} (h : isDigit b = true) : isNumberByte b = true := by
  unfold isNumberByte
  rw [h]
  rfl

theorem all_isNumberByte_of_isFraction {s : List UInt8} (h : isFraction s = true) :
    s.all isNumberByte = true := by
  cases s with
  | nil => rfl
  | cons b s =>
    unfold isFraction at h
    rw [Bool.and_eq_true, Bool.and_eq_true, decide_eq_true_eq, List.all_eq_true] at h
    obtain ⟨⟨rfl, hdigits⟩, _⟩ := h
    exact List.all_eq_true.2 (List.forall_mem_cons.2
      ⟨by decide, fun b hb => isNumberByte_of_isDigit (hdigits b hb)⟩)

theorem all_isNumberByte_of_dropMinus {s : List UInt8}
    (h : (dropMinus s).all isNumberByte = true) : s.all isNumberByte = true := by
  cases s with
  | nil => rfl
  | cons b s =>
    simp only [dropMinus] at h
    split at h
    · rename_i hminus
      rw [hminus, List.all_cons, h]
      rfl
    · exact h

/-- A number has no other characters. -/
theorem Number.all_isNumberByte (n : Number) : n.text.all isNumberByte = true := by
  obtain ⟨_, hfraction⟩ := Bool.and_eq_true_iff.1 n.valid
  refine all_isNumberByte_of_dropMinus ?_
  rw [← @List.takeWhile_append_dropWhile _ isDigit (dropMinus n.text), List.all_append,
    all_isNumberByte_of_isFraction hfraction, Bool.and_true, List.all_eq_true]
  exact fun b hb => isNumberByte_of_isDigit (List.all_eq_true.1 List.all_takeWhile b hb)

theorem Number.text_ne_nil (n : Number) : n.text ≠ [] := by
  intro hnil
  have hvalid := n.valid
  rw [hnil] at hvalid
  exact Bool.false_ne_true hvalid

theorem parseNumber_print (n : Number) {rest : List UInt8} (h : Ends rest) :
    parseNumber (n.text ++ rest) = some (n, rest) := by
  obtain ⟨htake, hdrop⟩ := takeWhile_append n.all_isNumberByte h
  unfold parseNumber
  simp only [htake, hdrop]
  exact dif_pos n.valid

/-! ### Items -/

section Items

variable {α : Type u} {print : α → List UInt8} {item : List UInt8 → Option (α × List UInt8)}
  {close : UInt8}

/-- The reader of one item stops in front of a comma or of the end. -/
def Reads (item : List UInt8 → Option (α × List UInt8)) (close : UInt8) (text : List UInt8)
    (x : α) : Prop :=
  ∀ b rest, b = comma ∨ b = close → item (text ++ b :: rest) = some (x, b :: rest)

theorem parseItems_print (hclose : close ≠ comma) {xs : List α} (hne : xs ≠ [])
    (h : ∀ x ∈ xs, Reads item close (print x) x) (rest : List UInt8) {fuel : Nat}
    (hfuel : xs.length ≤ fuel) :
    parseItems item close fuel ([comma].intercalate (xs.map print) ++ close :: rest) =
      some (xs, rest) := by
  induction xs generalizing fuel with
  | nil => exact absurd rfl hne
  | cons x xs ih =>
    obtain ⟨hx, hxs⟩ := List.forall_mem_cons.1 h
    obtain ⟨fuel, rfl⟩ : ∃ n, fuel = n + 1 := ⟨fuel - 1, by
      rw [List.length_cons] at hfuel
      omega⟩
    cases xs with
    | nil =>
      rw [List.map_singleton, List.intercalate_singleton]
      unfold parseItems
      rw [hx close rest (Or.inr rfl)]
      exact if_pos rfl
    | cons y xs =>
      have htail := ih (List.cons_ne_nil _ _) hxs (Nat.le_of_succ_le_succ hfuel)
      have hmore : (y :: xs).map print ≠ [] := List.cons_ne_nil _ _
      rw [List.map_cons, List.intercalate_cons_of_ne_nil hmore, List.append_assoc,
        List.append_assoc, List.singleton_append]
      unfold parseItems
      rw [hx comma _ (Or.inl rfl)]
      show (if some comma = some close then _ else if some comma = some comma then _ else _) = _
      rw [if_neg fun heq => hclose (Option.some.inj heq).symm, if_pos rfl]
      show (parseItems item close fuel _).bind _ = _
      rw [List.tail_cons, htail]
      rfl

end Items

/-- The text with all the commas is longer than there are commas, and no shorter than a
part of it. -/
theorem length_le_intercalate {texts : List (List UInt8)} :
    texts.length ≤ ([comma].intercalate texts).length + 1 ∧
      ∀ t ∈ texts, t.length ≤ ([comma].intercalate texts).length := by
  induction texts with
  | nil => exact ⟨Nat.zero_le _, List.forall_mem_nil _⟩
  | cons text texts ih =>
    cases texts with
    | nil =>
      rw [List.intercalate_singleton]
      exact ⟨Nat.succ_le_succ (Nat.zero_le _), List.forall_mem_singleton.2 (Nat.le_refl _)⟩
    | cons next texts =>
      rw [List.intercalate_cons_cons, List.length_append, List.length_append, List.length_cons,
        List.length_singleton]
      refine ⟨by omega, List.forall_mem_cons.2 ⟨by omega, fun t ht => ?_⟩⟩
      have := ih.2 t ht
      omega

/-! ### Values -/

theorem printElements_eq (vs : List Value) : printElements vs = vs.map print := by
  induction vs with
  | nil => rfl
  | cons v vs ih =>
    unfold printElements
    rw [ih, List.map_cons]

theorem printMembers_eq (ms : List (Text × Value)) : printMembers ms = ms.map printMember := by
  induction ms with
  | nil => rfl
  | cons m ms ih =>
    unfold printMembers
    rw [ih, List.map_cons]

/-- The first character of a value is not the end of an array. -/
theorem head?_print (v : Value) (rest : List UInt8) :
    (print v ++ rest).head? ≠ some closeBracket := by
  cases v with
  | number n =>
    obtain ⟨b, text, htext⟩ := List.exists_cons_of_ne_nil n.text_ne_nil
    have hall := n.all_isNumberByte
    unfold print
    rw [htext] at hall ⊢
    intro hhead
    have hb : b = closeBracket := Option.some.inj hhead
    rw [List.all_cons, hb] at hall
    exact Bool.false_ne_true hall
  | string t =>
    unfold print
    exact fun h => absurd (Option.some.inj h) (by decide)
  | array es =>
    unfold print
    exact fun h => absurd (Option.some.inj h) (by decide)
  | object ms =>
    unfold print
    exact fun h => absurd (Option.some.inj h) (by decide)

/-- The reader finds a value again in front of whatever ends a number. -/
def ReadsBack (v : Value) : Prop :=
  ∀ fuel rest, (print v).length ≤ fuel → Ends rest → parseValue fuel (print v ++ rest) = some (v, rest)

theorem ends_cons {b : UInt8} (h : b = comma ∨ b = closeBracket ∨ b = closeBrace)
    (rest : List UInt8) : Ends (b :: rest) := by
  intro c hc
  rw [← Option.some.inj hc]
  rcases h with rfl | rfl | rfl <;> decide

theorem readsBack_string (t : Text) : ReadsBack (.string t) := by
  intro fuel rest hfuel _
  cases fuel with
  | zero =>
    unfold print Text.print at hfuel
    exact absurd hfuel (by simp)
  | succ fuel =>
    unfold print Text.print
    rw [List.cons_append, List.append_assoc, List.singleton_append]
    unfold parseValue
    rw [if_pos rfl, parseChars_print]
    rfl

theorem readsBack_number (n : Number) : ReadsBack (.number n) := by
  intro fuel rest hfuel hends
  obtain ⟨b, text, htext⟩ := List.exists_cons_of_ne_nil n.text_ne_nil
  have hparse := parseNumber_print n hends
  have hall := n.all_isNumberByte
  cases fuel with
  | zero =>
    unfold print at hfuel
    rw [htext] at hfuel
    exact absurd hfuel (by simp)
  | succ fuel =>
    have hb : ∀ c, isNumberByte c = false → b ≠ c := by
      intro c hc heq
      rw [htext, List.all_cons, heq, hc] at hall
      exact Bool.false_ne_true hall
    unfold print
    rw [htext] at hparse ⊢
    rw [List.cons_append] at hparse ⊢
    unfold parseValue
    rw [if_neg (hb quote (by decide)), if_neg (hb openBracket (by decide)),
      if_neg (hb openBrace (by decide)), hparse]
    rfl

/-- The first text stands in front. -/
theorem exists_intercalate (text : List UInt8) (texts : List (List UInt8)) :
    ∃ rest, [comma].intercalate (text :: texts) = text ++ rest := by
  cases texts with
  | nil => exact ⟨[], by rw [List.intercalate_singleton, List.append_nil]⟩
  | cons next texts =>
    exact ⟨_, by rw [List.intercalate_cons_cons, List.append_assoc]⟩

theorem readsBack_array {es : List Value} (h : ∀ v ∈ es, ReadsBack v) : ReadsBack (.array es) := by
  intro fuel rest hfuel _
  unfold print at hfuel ⊢
  rw [printElements_eq] at hfuel ⊢
  rw [List.length_cons, List.length_append, List.length_singleton] at hfuel
  rw [List.cons_append, List.append_assoc, List.singleton_append]
  obtain ⟨fuel, rfl⟩ : ∃ n, fuel = n + 1 := ⟨fuel - 1, by omega⟩
  unfold parseValue
  rw [if_neg (show openBracket ≠ quote by decide), if_pos rfl]
  cases es with
  | nil => rfl
  | cons v es =>
    obtain ⟨hcount, hlength⟩ := @length_le_intercalate ((v :: es).map print)
    rw [List.length_map] at hcount
    have hreads : ∀ v' ∈ v :: es, Reads (parseValue fuel) closeBracket (print v') v' := by
      intro v' hv' b rest hb
      refine h v' hv' fuel _ ?_ (ends_cons (hb.imp_right Or.inl) rest)
      have := hlength _ (List.mem_map_of_mem hv')
      omega
    have hitems := parseItems_print (show closeBracket ≠ comma by decide) (List.cons_ne_nil v es)
      hreads rest (show (v :: es).length ≤ fuel by omega)
    obtain ⟨more, hmore⟩ := exists_intercalate (print v) (es.map print)
    have hopen : ([comma].intercalate ((v :: es).map print) ++ closeBracket :: rest).head? ≠
        some closeBracket := by
      rw [List.map_cons, hmore, List.append_assoc]
      exact head?_print v _
    rw [if_neg hopen, hitems]
    rfl

theorem reads_member {m : Text × Value} (h : ReadsBack m.2) {fuel : Nat}
    (hfuel : (printMember m).length ≤ fuel) :
    Reads (parseMember (parseValue fuel)) closeBrace (printMember m) m := by
  intro b rest hb
  obtain ⟨k, v⟩ := m
  have hle : (print v).length ≤ fuel := by
    unfold printMember at hfuel
    rw [List.length_append, List.length_cons] at hfuel
    omega
  have hvalue := h fuel (b :: rest) hle (ends_cons (hb.imp_right Or.inr) rest)
  have hquote (s : List UInt8) : (quote :: s).head? = some quote := rfl
  unfold printMember Text.print parseMember
  rw [List.append_assoc, List.cons_append, List.cons_append, List.append_assoc,
    List.singleton_append, if_pos (hquote _), List.tail_cons, parseChars_print]
  show (parseValue fuel (print v ++ b :: rest)).bind (fun r => some ((k, r.1), r.2)) = _
  rw [hvalue]
  rfl

theorem readsBack_object {ms : List (Text × Value)} (h : ∀ m ∈ ms, ReadsBack m.2) :
    ReadsBack (.object ms) := by
  intro fuel rest hfuel _
  unfold print at hfuel ⊢
  rw [printMembers_eq] at hfuel ⊢
  rw [List.length_cons, List.length_append, List.length_singleton] at hfuel
  rw [List.cons_append, List.append_assoc, List.singleton_append]
  obtain ⟨fuel, rfl⟩ : ∃ n, fuel = n + 1 := ⟨fuel - 1, by omega⟩
  unfold parseValue
  rw [if_neg (show openBrace ≠ quote by decide), if_neg (show openBrace ≠ openBracket by decide),
    if_pos rfl]
  cases ms with
  | nil => rfl
  | cons m ms =>
    obtain ⟨hcount, hlength⟩ := @length_le_intercalate ((m :: ms).map printMember)
    rw [List.length_map] at hcount
    have hreads : ∀ m' ∈ m :: ms,
        Reads (parseMember (parseValue fuel)) closeBrace (printMember m') m' := by
      intro m' hm'
      refine reads_member (h m' hm') ?_
      have := hlength _ (List.mem_map_of_mem hm')
      omega
    have hitems := parseItems_print (show closeBrace ≠ comma by decide) (List.cons_ne_nil m ms)
      hreads rest (show (m :: ms).length ≤ fuel by omega)
    obtain ⟨more, hmore⟩ := exists_intercalate (printMember m) (ms.map printMember)
    have hopen : ([comma].intercalate ((m :: ms).map printMember) ++ closeBrace :: rest).head? ≠
        some closeBrace := by
      have hhead : (printMember m).head? = some quote := by
        unfold printMember Text.print
        rfl
      obtain ⟨text, htext⟩ := List.head?_eq_some_iff.1 hhead
      rw [List.map_cons, hmore, htext]
      exact fun heq => absurd (Option.some.inj heq) (show quote ≠ closeBrace by decide)
    rw [if_neg hopen, hitems]
    rfl

mutual

theorem readsBack : ∀ v, ReadsBack v
  | .string t => readsBack_string t
  | .number n => readsBack_number n
  | .array es => readsBack_array (readsBack_elements es)
  | .object ms => readsBack_object (readsBack_members ms)

theorem readsBack_elements : ∀ es : List Value, ∀ v ∈ es, ReadsBack v
  | [] => List.forall_mem_nil _
  | v :: es => List.forall_mem_cons.2 ⟨readsBack v, readsBack_elements es⟩

theorem readsBack_members : ∀ ms : List (Text × Value), ∀ m ∈ ms, ReadsBack m.2
  | [] => List.forall_mem_nil _
  | (_, v) :: ms => List.forall_mem_cons.2 ⟨readsBack v, readsBack_members ms⟩

end

/-- Reading what was printed gives the value back. -/
theorem parse_print (v : Value) : parse (print v) = some v := by
  have hread := readsBack v (print v).length [] (Nat.le_refl _) nofun
  rw [List.append_nil] at hread
  unfold parse
  rw [hread]
  rfl

end Json
