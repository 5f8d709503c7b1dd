import NeoRecomp.Config.Loader

/-!
# Files and their pieces

The pieces that the loader reads make up the file.  Where a file is cut at the end of a line, the
pieces of its parts are the pieces of the whole.
-/

namespace NeoRecomp

/-! ## One piece -/

theorem fgets_joins (room : Nat) (file : List Char) :
    (fgets room file).1 ++ (fgets room file).2 = file := by
  induction room generalizing file with
  | zero => rfl
  | succ room ih =>
    cases file with
    | nil => rfl
    | cons c file =>
      unfold fgets
      split
      · rfl
      · exact congrArg (c :: ·) (ih file)

theorem fgets_ne_nil {room : Nat} (hroom : room ≠ 0) (c : Char) (file : List Char) :
    (fgets room (c :: file)).1 ≠ [] := by
  cases room with
  | zero => exact absurd rfl hroom
  | succ room =>
    unfold fgets
    split <;> exact List.cons_ne_nil _ _

theorem lineRoom_ne_zero : lineRoom ≠ 0 := by decide

/-- The rest of a file is shorter than the file. -/
theorem length_rest_lt (c : Char) (file : List Char) :
    (fgets lineRoom (c :: file)).2.length < (c :: file).length := by
  have hjoin := congrArg List.length (fgets_joins lineRoom (c :: file))
  have hpos := List.length_pos_iff.mpr (fgets_ne_nil lineRoom_ne_zero c file)
  rw [List.length_append] at hjoin
  omega

/-! ## All pieces -/

theorem readPieces_eq_readLines (turns : Nat) (file : List Char) (h : file.length ≤ turns) :
    readPieces turns file = readLines file := by
  induction turns using Nat.strong_induction_on generalizing file with
  | h turns ih =>
    cases file with
    | nil => cases turns <;> rfl
    | cons c file =>
      cases turns with
      | zero => exact absurd h (by simp)
      | succ turns =>
        have hrest := length_rest_lt c file
        unfold readLines
        show (fgets lineRoom (c :: file)).1 :: readPieces turns (fgets lineRoom (c :: file)).2 =
          (fgets lineRoom (c :: file)).1 ::
            readPieces file.length (fgets lineRoom (c :: file)).2
        rw [ih turns (by omega) _ (by simp only [List.length_cons] at h hrest; omega)]
        by_cases hf : file.length < turns + 1
        · rw [ih file.length hf _ (by simp only [List.length_cons] at hrest; omega)]
        · simp only [List.length_cons] at h
          omega

theorem readLines_cons (c : Char) (file : List Char) :
    readLines (c :: file) =
      (fgets lineRoom (c :: file)).1 :: readLines (fgets lineRoom (c :: file)).2 := by
  have hrest := length_rest_lt c file
  unfold readLines
  show _ :: readPieces file.length _ = _
  rw [readPieces_eq_readLines file.length _ (by simp only [List.length_cons] at hrest; omega)]
  rfl

/-! ## Whole lines -/

/-- The text is empty or its last line is complete. -/
def EndsLine (text : List Char) : Prop := text = [] ∨ text.getLast? = some '\n'

/-- A piece of a text with complete lines stays in it, and leaves complete lines. -/
theorem fgets_append {room : Nat} {a : List Char} (ha : a.getLast? = some '\n') (b : List Char) :
    fgets room (a ++ b) = ((fgets room a).1, (fgets room a).2 ++ b) ∧
      EndsLine (fgets room a).2 := by
  induction room generalizing a with
  | zero => exact ⟨rfl, .inr ha⟩
  | succ room ih =>
    cases a with
    | nil => cases ha
    | cons c a =>
      rw [List.cons_append]
      unfold fgets
      by_cases hc : c = '\n'
      · rw [if_pos hc, if_pos hc]
        refine ⟨rfl, ?_⟩
        cases a with
        | nil => exact .inl rfl
        | cons d a => exact .inr ha
      · rw [if_neg hc, if_neg hc]
        cases a with
        | nil => exact absurd (Option.some.inj ha) hc
        | cons d a =>
          have hlast : (d :: a).getLast? = some '\n' := ha
          obtain ⟨hread, hends⟩ := ih hlast
          exact ⟨by rw [hread], hends⟩

theorem readLines_append {a : List Char} (ha : EndsLine a) (b : List Char) :
    readLines (a ++ b) = readLines a ++ readLines b := by
  induction hn : a.length using Nat.strong_induction_on generalizing a with
  | h n ih =>
    cases a with
    | nil => rfl
    | cons c a =>
      have hlast : (c :: a).getLast? = some '\n' := ha.resolve_left (List.cons_ne_nil c a)
      obtain ⟨hread, hends⟩ := @fgets_append lineRoom (c :: a) hlast b
      rw [List.cons_append] at hread ⊢
      rw [readLines_cons, readLines_cons, hread,
        ih _ (hn ▸ length_rest_lt c a) hends rfl, List.cons_append]

theorem readLines_flatten {texts : List (List Char)} (h : ∀ t ∈ texts, EndsLine t) :
    readLines texts.flatten = texts.flatMap readLines := by
  induction texts with
  | nil => rfl
  | cons t texts ih =>
    rw [List.flatten_cons, readLines_append (h t List.mem_cons_self),
      ih fun u hu => h u (List.mem_cons_of_mem _ hu), List.flatMap_cons]

end NeoRecomp
