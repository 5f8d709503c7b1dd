import Mathlib.Data.List.Chain
import NeoRecomp.Correct.ConfigText

/-!
# The numbers of a line

What stands between the brackets of an address array: literals, commas, blanks and comments.  In a
piece that cuts no literal, the walk over the line finds the literals in order.
-/

namespace NeoRecomp

/-! ## Literals -/

/-- The number that digits make behind those of `n`. -/
def digitsNumber (base n : Nat) (digits : List Char) : Nat :=
  digits.foldl (fun n c => n * base + (digitValue c).getD 0) n

/-- A 32-bit number, in decimal without zeros in front or in hexadecimal behind `0x`. -/
structure AddressLiteral where
  hex : Bool
  first : Char
  more : List Char
  digits : ∀ c ∈ first :: more, isDigitIn (if hex then 16 else 10) c = true
  plain : hex = false → first = '0' → more = []
  small : digitsNumber (if hex then 16 else 10) 0 (first :: more) < 2 ^ 32

namespace AddressLiteral

variable (l : AddressLiteral)

def base : Nat := if l.hex then 16 else 10

def text : List Char := (if l.hex then ['0', 'x'] else []) ++ l.first :: l.more

def value : BitVec 32 := BitVec.ofNat 32 (digitsNumber l.base 0 (l.first :: l.more))

end AddressLiteral

/-- The rest of a line goes on with something else than a digit in the base. -/
def StopsDigits (base : Nat) (rest : List Char) : Prop := ∀ c ∈ rest.head?, isDigitIn base c = false

theorem readDigits_append {base : Nat} {digits rest : List Char}
    (hdigits : ∀ c ∈ digits, isDigitIn base c = true) (hrest : StopsDigits base rest) (n : Nat) :
    readDigits base n (digits ++ rest) = (digitsNumber base n digits, rest) := by
  induction digits generalizing n with
  | nil =>
    cases rest with
    | nil => rfl
    | cons c rest =>
      have hc : isDigitIn base c = false := hrest c rfl
      show (if isDigitIn base c then _ else (n, c :: rest)) = _
      rw [hc]
      rfl
  | cons d digits ih =>
    have hd : isDigitIn base d = true := hdigits d List.mem_cons_self
    show (if isDigitIn base d then readDigits base _ (digits ++ rest) else _) = _
    rw [if_pos hd, ih fun c hc => hdigits c (List.mem_cons_of_mem _ hc)]
    rfl

/-- A character that ends every literal. -/
def endsLiteral (c : Char) : Bool := !isDigitIn 16 c && c ≠ 'x' && c ≠ 'X'

theorem isDigitIn_ten_eq {c : Char} : isDigitIn 10 c = isDecDigit c := by
  unfold isDigitIn digitValue
  by_cases hc : isDecDigit c = true
  · rw [if_pos hc, hc]
    unfold isDecDigit at hc
    simp only [Bool.and_eq_true, decide_eq_true_eq, Char.le_def, UInt32.le_iff_toNat_le] at hc
    show decide (c.toNat - '0'.toNat < 10) = true
    have h9 : ('9' : Char).val.toNat = 57 := rfl
    have h0 : ('0' : Char).toNat = 48 := rfl
    have hle : c.toNat ≤ 57 := h9 ▸ hc.2
    rw [decide_eq_true_eq, h0]
    omega
  · rw [if_neg hc, Bool.eq_false_iff.mpr hc]
    have hten : ∀ n : Nat, (some (n + 10)).any (· < 10) = false := by
      intro n
      show decide (n + 10 < 10) = false
      exact decide_eq_false (by omega)
    split
    · exact hten _
    · split
      · exact hten _
      · rfl

theorem isDigitIn_of_le {base base' : Nat} (hle : base ≤ base') {c : Char}
    (h : isDigitIn base c = true) : isDigitIn base' c = true := by
  unfold isDigitIn at h ⊢
  cases hv : digitValue c with
  | none => rw [hv] at h; cases h
  | some v =>
    rw [hv] at h
    have hlt : v < base := of_decide_eq_true h
    exact decide_eq_true (by omega)

/-- Behind a literal stands nothing or a character that ends it. -/
def EndsHere (rest : List Char) : Prop := ∀ c ∈ rest.head?, endsLiteral c = true

theorem EndsHere.stops {rest : List Char} (h : EndsHere rest) {base : Nat} (hbase : base ≤ 16) :
    StopsDigits base rest := by
  intro c hc
  have hends := h c hc
  unfold endsLiteral at hends
  simp only [Bool.and_eq_true, Bool.not_eq_true'] at hends
  by_contra hdigit
  rw [isDigitIn_of_le hbase (eq_true_of_ne_false hdigit)] at hends
  exact absurd hends.1.1 Bool.false_ne_true.symm

theorem readUnsigned_hex {c : Char} (hc : isDigitIn 16 c = true) (rest : List Char) :
    readUnsigned ('0' :: 'x' :: c :: rest) = some (readDigits 16 0 (c :: rest)) := by
  simp [readUnsigned, hc, isDecDigit]

theorem readUnsigned_decimal {c : Char} (hc : isDecDigit c = true) (hzero : c ≠ '0')
    (rest : List Char) : readUnsigned (c :: rest) = some (readDigits 10 0 (c :: rest)) := by
  simp [readUnsigned, hc, hzero]

theorem readUnsigned_zero {rest : List Char} (h : EndsHere rest) :
    readUnsigned ('0' :: rest) = some (readDigits 8 0 ('0' :: rest)) := by
  rcases rest with _ | ⟨x, _ | ⟨g, rest⟩⟩
  · rfl
  · rfl
  · have hends := h x rfl
    unfold endsLiteral at hends
    simp only [Bool.and_eq_true, decide_eq_true_eq] at hends
    simp [readUnsigned, hends.1.2, hends.2, isDecDigit]

theorem isSpace_of_isDecDigit {c : Char} (h : isDecDigit c = true) : isSpace c = false := by
  by_contra hs
  rw [Bool.not_eq_false] at hs
  unfold isSpace at hs
  simp only [Bool.or_eq_true, decide_eq_true_eq] at hs
  rcases hs with ((((rfl | rfl) | rfl) | rfl) | rfl) | rfl <;> exact absurd h (by decide)

namespace AddressLiteral

variable (l : AddressLiteral)

/-- A literal starts with a decimal digit. -/
theorem text_head : ∃ c rest, l.text = c :: rest ∧ isDecDigit c = true := by
  obtain ⟨hex, first, more, digits, plain, small⟩ := l
  cases hex with
  | true => exact ⟨'0', _, rfl, rfl⟩
  | false => exact ⟨first, more, rfl, isDigitIn_ten_eq ▸ digits first List.mem_cons_self⟩

theorem readUnsigned_text {rest : List Char} (h : EndsHere rest) :
    readUnsigned (l.text ++ rest) = some (digitsNumber l.base 0 (l.first :: l.more), rest) := by
  obtain ⟨hex, first, more, digits, plain, small⟩ := l
  cases hex with
  | true =>
    have hdigits : ∀ c ∈ first :: more, isDigitIn 16 c = true := digits
    have hread := readDigits_append hdigits (h.stops (Nat.le_refl _)) 0
    show readUnsigned ('0' :: 'x' :: first :: (more ++ rest)) = _
    rw [readUnsigned_hex (hdigits first List.mem_cons_self)]
    exact congrArg some hread
  | false =>
    have hdigits : ∀ c ∈ first :: more, isDigitIn 10 c = true := digits
    have hfirst : isDecDigit first = true :=
      isDigitIn_ten_eq ▸ hdigits first List.mem_cons_self
    show readUnsigned (first :: (more ++ rest)) = _
    by_cases hzero : first = '0'
    · obtain rfl : more = [] := plain rfl hzero
      subst hzero
      have hread : readDigits 8 0 ('0' :: rest) = (0, rest) :=
        readDigits_append (List.forall_mem_singleton.mpr (by decide)) (h.stops (by decide)) 0
      rw [List.nil_append, readUnsigned_zero h, hread]
      rfl
    · have hread := readDigits_append hdigits (h.stops (by decide)) 0
      rw [readUnsigned_decimal hfirst hzero]
      exact congrArg some hread

theorem strtoul_text {rest : List Char} (h : EndsHere rest) :
    strtoul (l.text ++ rest) = some (digitsNumber l.base 0 (l.first :: l.more), rest) := by
  obtain ⟨c, tail, htext, hdigit⟩ := l.text_head
  have htrim : trimLeft (l.text ++ rest) = l.text ++ rest := by
    rw [htext]
    exact List.dropWhile_cons_of_neg (by simp [isSpace_of_isDecDigit hdigit])
  have hsign : ∀ sign, isDecDigit sign = false → (l.text ++ rest).head? ≠ some sign := by
    intro sign hs hhead
    rw [htext] at hhead
    obtain rfl : c = sign := Option.some.inj hhead
    rw [hs] at hdigit
    cases hdigit
  have hsmall : ¬ ulongMax < digitsNumber l.base 0 (l.first :: l.more) := by
    have hlt := l.small
    unfold ulongMax base
    omega
  unfold strtoul
  dsimp only
  rw [htrim, if_neg (by
    rintro (hminus | hplus)
    · exact hsign '-' (by decide) hminus
    · exact hsign '+' (by decide) hplus), l.readUnsigned_text h]
  show some (if ulongMax < _ then _ else if (l.text ++ rest).head? = some '-' then _ else _) = _
  rw [if_neg hsmall, if_neg (hsign '-' (by decide))]

end AddressLiteral

/-! ## The walk over a line -/

/-- The walk finds these numbers, whatever the bound on its turns. -/
def Reads (line : List Char) (numbers : List (BitVec 32)) : Prop :=
  ∀ turns, line.length ≤ turns → lineNumbers turns line = numbers

theorem Reads.numbersIn_eq {line : List Char} {numbers : List (BitVec 32)}
    (h : Reads line numbers) : numbersIn line = numbers := h _ (Nat.le_refl _)

theorem Reads.nil : Reads [] [] := by
  intro turns _
  cases turns <;> rfl

/-- A character that the walk passes over. -/
def passed (c : Char) : Bool := !isDecDigit c && c ≠ '#'

theorem Reads.pass {line : List Char} {numbers : List (BitVec 32)} (h : Reads line numbers)
    {c : Char} (hc : passed c = true) : Reads (c :: line) numbers := by
  unfold passed at hc
  simp only [Bool.and_eq_true, Bool.not_eq_true', decide_eq_true_eq] at hc
  intro turns hturns
  cases turns with
  | zero => exact absurd hturns (by simp)
  | succ turns =>
    show (if c = '#' then [] else if isDecDigit c then _ else lineNumbers turns line) = _
    rw [if_neg hc.2, if_neg (by simp [hc.1])]
    exact h turns (Nat.le_of_succ_le_succ hturns)

theorem Reads.passAll {line : List Char} {numbers : List (BitVec 32)} (h : Reads line numbers)
    {cs : List Char} (hcs : ∀ c ∈ cs, passed c = true) : Reads (cs ++ line) numbers := by
  induction cs with
  | nil => exact h
  | cons c cs ih =>
    exact (ih fun d hd => hcs d (List.mem_cons_of_mem _ hd)).pass (hcs c List.mem_cons_self)

theorem Reads.literal {line : List Char} {numbers : List (BitVec 32)} (h : Reads line numbers)
    (l : AddressLiteral) (hends : EndsHere line) : Reads (l.text ++ line) (l.value :: numbers) := by
  obtain ⟨c, rest, htext, hdigit⟩ := l.text_head
  intro turns hturns
  have hread := l.strtoul_text hends
  rw [htext] at hturns hread ⊢
  cases turns with
  | zero => exact absurd hturns (by simp)
  | succ turns =>
    rw [List.cons_append] at hread hturns ⊢
    unfold lineNumbers
    rw [if_neg (by rintro rfl; exact absurd hdigit (by decide)), if_pos hdigit, hread]
    have hlen : line.length ≤ turns := by
      simp only [List.length_cons, List.length_append] at hturns
      omega
    show _ :: lineNumbers turns line = _
    rw [h turns hlen]
    rfl

theorem passed_of_isSpace {c : Char} (h : isSpace c = true) : passed c = true := by
  unfold isSpace at h
  simp only [Bool.or_eq_true, decide_eq_true_eq] at h
  rcases h with ((((rfl | rfl) | rfl) | rfl) | rfl) | rfl <;> decide

/-- Blanks in front do not matter. -/
theorem Reads.trim {line : List Char} {numbers : List (BitVec 32)} (h : Reads line numbers) :
    Reads (trimLeft line) numbers := by
  induction line with
  | nil => exact h
  | cons c line ih =>
    by_cases hc : isSpace c = true
    · rw [trimLeft, List.dropWhile_cons_of_pos hc]
      have hpass := passed_of_isSpace hc
      unfold passed at hpass
      simp only [Bool.and_eq_true, Bool.not_eq_true', decide_eq_true_eq] at hpass
      apply ih
      intro turns hturns
      rw [← h (turns + 1) (Nat.succ_le_succ hturns)]
      show _ = if c = '#' then [] else if isDecDigit c then _ else lineNumbers turns line
      rw [if_neg hpass.2, if_neg (by simp [hpass.1])]
    · rw [trimLeft, List.dropWhile_cons_of_neg hc]
      exact h

/-! ## Between the brackets -/

/-- What an address array holds between its brackets. -/
inductive ArrayItem
  | blank (c : Char) (h : isSpace c = true)
  | comma
  | literal (l : AddressLiteral)
  | hash
  | inComment (c : Char) (h : c ≠ '\n')

namespace ArrayItem

def text : ArrayItem → List Char
  | blank c _ => [c]
  | comma => [',']
  | literal l => l.text
  | hash => ['#']
  | inComment c _ => [c]

/-- What can follow an item: a comment runs to the end of its line, and between two literals stands
something else. -/
def Follows : ArrayItem → ArrayItem → Prop
  | hash, inComment _ _ => True
  | hash, blank c _ => c = '\n'
  | hash, _ => False
  | inComment _ _, inComment _ _ => True
  | inComment _ _, blank c _ => c = '\n'
  | inComment _ _, _ => False
  | _, inComment _ _ => False
  | literal _, literal _ => False
  | _, _ => True

/-- An item outside of comments. -/
def plain : ArrayItem → Bool
  | hash => false
  | inComment _ _ => false
  | _ => true

def isInComment : ArrayItem → Bool
  | inComment _ _ => true
  | _ => false

def number? : ArrayItem → Option (BitVec 32)
  | literal l => some l.value
  | _ => none

end ArrayItem

/-- The text of items. -/
def itemsText (items : List ArrayItem) : List Char := items.flatMap ArrayItem.text

/-- The literals among items, in order. -/
def itemsNumbers (items : List ArrayItem) : List (BitVec 32) := items.filterMap ArrayItem.number?

theorem ArrayItem.text_ne_nil (item : ArrayItem) : item.text ≠ [] := by
  cases item with
  | literal l =>
    obtain ⟨c, rest, htext, -⟩ := l.text_head
    show l.text ≠ []
    rw [htext]
    exact List.cons_ne_nil _ _
  | _ => exact List.cons_ne_nil _ _

theorem itemsText_append (as bs : List ArrayItem) :
    itemsText (as ++ bs) = itemsText as ++ itemsText bs := List.flatMap_append

theorem itemsNumbers_append (as bs : List ArrayItem) :
    itemsNumbers (as ++ bs) = itemsNumbers as ++ itemsNumbers bs := List.filterMap_append

/-! ## What the walk sees of items -/

/-- A character that neither ends what is seen of a line nor is a bracket. -/
def plainChar (c : Char) : Bool := c ≠ '\x00' && c ≠ '#' && c ≠ '[' && c ≠ ']'

theorem clean_of_plainChar {c : Char} (h : plainChar c = true) : c ≠ '\x00' ∧ c ≠ '#' := by
  unfold plainChar at h
  simp only [Bool.and_eq_true, decide_eq_true_eq] at h
  exact h.1.1

theorem plainChar_of_isSpace {c : Char} (h : isSpace c = true) : plainChar c = true := by
  unfold isSpace at h
  simp only [Bool.or_eq_true, decide_eq_true_eq] at h
  rcases h with ((((rfl | rfl) | rfl) | rfl) | rfl) | rfl <;> decide

theorem plainChar_of_isDigitIn {c : Char} (h : isDigitIn 16 c = true) : plainChar c = true := by
  unfold plainChar
  simp only [Bool.and_eq_true, decide_eq_true_eq]
  refine ⟨⟨⟨?_, ?_⟩, ?_⟩, ?_⟩ <;> rintro rfl <;> exact absurd h (by decide)

theorem ArrayItem.plainChar_of_mem {item : ArrayItem} (hplain : item.plain = true) {c : Char}
    (hc : c ∈ item.text) : plainChar c = true := by
  cases item with
  | blank d hd =>
    obtain rfl := List.mem_singleton.mp hc
    exact plainChar_of_isSpace hd
  | comma =>
    obtain rfl := List.mem_singleton.mp hc
    decide
  | literal l =>
    have hdigit : c ∈ l.first :: l.more → plainChar c = true := fun hmem =>
      plainChar_of_isDigitIn (isDigitIn_of_le (by split <;> decide) (l.digits c hmem))
    rcases List.mem_append.mp hc with hc | hc
    · split at hc
      · rcases List.mem_cons.mp hc with rfl | hc
        · decide
        · obtain rfl := List.mem_singleton.mp hc
          decide
      · cases hc
    · exact hdigit hc
  | hash => cases hplain
  | inComment d hd => cases hplain

theorem plainChar_of_mem_itemsText {items : List ArrayItem} (hplain : ∀ i ∈ items, i.plain = true)
    {c : Char} (hc : c ∈ itemsText items) : plainChar c = true := by
  obtain ⟨item, hitem, hmem⟩ := List.mem_flatMap.mp hc
  exact item.plainChar_of_mem (hplain item hitem) hmem

/-- What the loader sees of a piece. -/
def visible (piece : List Char) : List Char :=
  (piece.takeWhile (· ≠ '\x00')).takeWhile (· ≠ '#')

theorem lineText_eq (piece : List Char) : lineText piece = trimLeft (visible piece) := rfl

theorem visible_append {front : List Char} (h : ∀ c ∈ front, c ≠ '\x00' ∧ c ≠ '#')
    (back : List Char) : visible (front ++ back) = front ++ visible back := by
  unfold visible
  rw [List.takeWhile_append_of_pos (by simpa using fun c hc => (h c hc).1),
    List.takeWhile_append_of_pos (by simpa using fun c hc => (h c hc).2)]

theorem visible_hash (back : List Char) : visible ('#' :: back) = [] := by
  unfold visible
  rw [List.takeWhile_cons_of_pos (by decide), List.takeWhile_cons_of_neg (by decide)]

theorem visible_itemsText {items : List ArrayItem} (hplain : ∀ i ∈ items, i.plain = true)
    (back : List Char) : visible (itemsText items ++ back) = itemsText items ++ visible back := by
  apply visible_append
  intro c hc
  exact clean_of_plainChar (plainChar_of_mem_itemsText hplain hc)

theorem endsHere_itemsText {item : ArrayItem} {items : List ArrayItem}
    (hplain : item.plain = true) (hlit : ∀ l, item ≠ .literal l) (back : List Char) :
    EndsHere (itemsText (item :: items) ++ back) := by
  intro c hc
  cases item with
  | blank d hd =>
    obtain rfl : d = c := Option.some.inj hc
    unfold isSpace at hd
    simp only [Bool.or_eq_true, decide_eq_true_eq] at hd
    rcases hd with ((((rfl | rfl) | rfl) | rfl) | rfl) | rfl <;> decide
  | comma =>
    obtain rfl : ',' = c := Option.some.inj hc
    decide
  | literal l => exact absurd rfl (hlit l)
  | hash => cases hplain
  | inComment d hd => cases hplain

/-- Outside of comments the walk finds the literals. -/
theorem reads_itemsText {items : List ArrayItem} (hplain : ∀ i ∈ items, i.plain = true)
    (hchain : List.IsChain ArrayItem.Follows items) {back : List Char} {numbers : List (BitVec 32)}
    (hback : Reads back numbers) (hends : EndsHere back) :
    Reads (itemsText items ++ back) (itemsNumbers items ++ numbers) := by
  induction items with
  | nil => exact hback
  | cons item items ih =>
    have hrest := ih (fun i hi => hplain i (List.mem_cons_of_mem _ hi)) hchain.tail
    have htext : itemsText (item :: items) ++ back = item.text ++ (itemsText items ++ back) :=
      List.append_assoc ..
    rw [htext]
    cases item with
    | blank c hc => exact hrest.pass (passed_of_isSpace hc)
    | comma => exact hrest.pass (by decide)
    | literal l =>
      apply hrest.literal l
      cases items with
      | nil => exact hends
      | cons next items =>
        apply endsHere_itemsText (hplain next (by simp))
        rintro m rfl
        exact (List.isChain_cons_cons.mp hchain).1
    | hash => cases hplain .hash List.mem_cons_self
    | inComment c hc => cases hplain (.inComment c hc) List.mem_cons_self

/-! ## Comments -/

/-- Items that do not start inside a comment: plain ones, and behind them at most one comment. -/
theorem exists_plain_hash {items : List ArrayItem}
    (hchain : List.IsChain ArrayItem.Follows items)
    (hhead : ∀ i ∈ items.head?, i.isInComment = false) :
    ∃ plain rest, items = plain ++ rest ∧ (∀ i ∈ plain, i.plain = true) ∧
      (rest = [] ∨ ∃ more, rest = .hash :: more) := by
  induction items with
  | nil => exact ⟨[], [], rfl, nofun, .inl rfl⟩
  | cons item items ih =>
    have hitem := hhead item rfl
    by_cases hhash : item = .hash
    · exact ⟨[], item :: items, rfl, nofun, .inr ⟨items, by rw [hhash]⟩⟩
    · have hplain : item.plain = true := by
        cases item <;> first | rfl | exact absurd rfl hhash | cases hitem
      have hnext : ∀ i ∈ items.head?, i.isInComment = false := by
        intro i hi
        cases items with
        | nil => cases hi
        | cons next items =>
          obtain rfl : next = i := Option.some.inj hi
          have hfollows := (List.isChain_cons_cons.mp hchain).1
          cases next with
          | inComment c hc => cases item <;> first | exact hfollows.elim | cases hplain
          | _ => rfl
      obtain ⟨plain, rest, heq, hall, hrest⟩ := ih hchain.tail hnext
      exact ⟨item :: plain, rest, by rw [heq]; rfl, List.forall_mem_cons.mpr ⟨hplain, hall⟩, hrest⟩

/-- Where a line ends with its newline, a comment on it hides no literal. -/
theorem itemsNumbers_comment {item : ArrayItem} {items : List ArrayItem}
    (hitem : item.plain = false) (hchain : List.IsChain ArrayItem.Follows (item :: items))
    (hline : '\n' ∉ (itemsText items).dropLast) : itemsNumbers items = [] := by
  induction items generalizing item with
  | nil => rfl
  | cons next items ih =>
    have hfollows := (List.isChain_cons_cons.mp hchain).1
    have hnext : next.plain = false ∨ ∃ h, next = .blank '\n' h := by
      cases next with
      | inComment c hc => exact .inl rfl
      | hash => exact .inl rfl
      | blank c hc =>
        cases item with
        | hash =>
          obtain rfl : c = '\n' := hfollows
          exact .inr ⟨hc, rfl⟩
        | inComment d hd =>
          obtain rfl : c = '\n' := hfollows
          exact .inr ⟨hc, rfl⟩
        | _ => cases hitem
      | _ => cases item <;> first | exact hfollows.elim | cases hitem
    have htext : itemsText (next :: items) = next.text ++ itemsText items := rfl
    rcases hnext with hnext | ⟨hspace, rfl⟩
    · have hnone : next.number? = none := by cases next <;> first | rfl | cases hnext
      have htail : '\n' ∉ (itemsText items).dropLast := by
        intro hmem
        apply hline
        rw [htext]
        cases hempty : itemsText items with
        | nil => rw [hempty] at hmem; cases hmem
        | cons c cs =>
          rw [List.dropLast_append_of_ne_nil (List.cons_ne_nil c cs), ← hempty]
          exact List.mem_append_right _ hmem
      show List.filterMap _ (next :: items) = []
      rw [List.filterMap_cons_none hnone]
      exact ih hnext hchain.tail htail
    · cases items with
      | nil => rfl
      | cons last items =>
        exfalso
        apply hline
        rw [htext]
        have hne : itemsText (last :: items) ≠ [] := by
          show last.text ++ itemsText items ≠ []
          exact fun h => last.text_ne_nil (List.append_eq_nil_iff.mp h).1
        rw [List.dropLast_append_of_ne_nil hne]
        exact List.mem_append_left _ (List.mem_singleton_self _)

/-- A comment ends before the next comma outside of it. -/
theorem newline_mem_comment {item : ArrayItem} {items : List ArrayItem}
    (hitem : item.plain = false)
    (hchain : List.IsChain ArrayItem.Follows (item :: (items ++ [.comma]))) :
    '\n' ∈ itemsText items := by
  induction items generalizing item with
  | nil =>
    have hfollows := (List.isChain_cons_cons.mp hchain).1
    cases item <;> first | exact hfollows.elim | cases hitem
  | cons next items ih =>
    have hfollows := (List.isChain_cons_cons.mp hchain).1
    have htext : itemsText (next :: items) = next.text ++ itemsText items := rfl
    rw [htext]
    cases next with
    | inComment c hc => exact List.mem_append_right _ (ih rfl hchain.tail)
    | hash => exact List.mem_append_right _ (ih rfl hchain.tail)
    | blank c hc =>
      have hnewline : c = '\n' := by cases item <;> first | exact hfollows | cases hitem
      subst hnewline
      exact List.mem_append_left _ (List.mem_singleton_self _)
    | _ => cases item <;> first | exact hfollows.elim | cases hitem

/-- What is seen of the items of a piece are plain items with the same literals. -/
theorem visible_piece {items : List ArrayItem} (hchain : List.IsChain ArrayItem.Follows items)
    (hhead : ∀ i ∈ items.head?, i.isInComment = false)
    (hline : '\n' ∉ (itemsText items).dropLast) :
    ∃ plain, visible (itemsText items) = itemsText plain ∧ (∀ i ∈ plain, i.plain = true) ∧
      List.IsChain ArrayItem.Follows plain ∧ itemsNumbers plain = itemsNumbers items := by
  obtain ⟨plain, rest, rfl, hall, hrest⟩ := exists_plain_hash hchain hhead
  refine ⟨plain, ?_, hall, hchain.left_of_append, ?_⟩
  · rw [itemsText_append, visible_itemsText hall]
    rcases hrest with rfl | ⟨more, rfl⟩
    · exact List.append_nil _
    · show itemsText plain ++ visible ('#' :: itemsText more) = _
      rw [visible_hash, List.append_nil]
  · rw [itemsNumbers_append]
    rcases hrest with rfl | ⟨more, rfl⟩
    · exact (List.append_nil _).symm
    · have htext : itemsText (plain ++ .hash :: more) =
          (itemsText plain ++ ['#']) ++ itemsText more := by
        rw [itemsText_append, List.append_assoc]
        rfl
      have hnone : itemsNumbers more = [] := by
        apply itemsNumbers_comment rfl hchain.right_of_append
        intro hmem
        apply hline
        rw [htext]
        cases hempty : itemsText more with
        | nil => rw [hempty] at hmem; cases hmem
        | cons c cs =>
          rw [List.dropLast_append_of_ne_nil (List.cons_ne_nil c cs), ← hempty]
          exact List.mem_append_right _ hmem
      show _ = _ ++ itemsNumbers more
      rw [hnone, List.append_nil]

/-- In front of the closing bracket on its line stand only plain items. -/
theorem plain_of_closed {items : List ArrayItem}
    (hchain : List.IsChain ArrayItem.Follows (items ++ [.comma]))
    (hline : '\n' ∉ itemsText items) : ∀ i ∈ items, i.plain = true := by
  have hhead : ∀ i ∈ items.head?, i.isInComment = false := by
    intro i hi
    cases items with
    | nil => cases hi
    | cons item items =>
      obtain rfl : item = i := Option.some.inj hi
      by_contra hin
      have hplain : item.plain = false := by
        cases item <;> first | rfl | exact absurd rfl hin
      exact hline (List.mem_append_right _ (newline_mem_comment hplain hchain))
  obtain ⟨plain, rest, rfl, hall, hrest⟩ := exists_plain_hash hchain.left_of_append hhead
  rcases hrest with rfl | ⟨more, rfl⟩
  · rw [List.append_nil]
    exact hall
  · exfalso
    rw [List.append_assoc] at hchain
    apply hline
    rw [itemsText_append]
    exact List.mem_append_right _
      (List.mem_append_right _ (newline_mem_comment rfl hchain.right_of_append))

end NeoRecomp
