import LintAdapter.Proofs.Suggestion.Window

namespace LintAdapter.Suggestion

def normalized (text : List Char) : List Char := dropFinalReturn (plainLineFeeds text)

structure IsPlain (text : List Char) : Prop where
  noPair : ¬ ['\r', '\n'] <:+: text
  noFinalReturn : text.getLast? ≠ some '\r'

theorem pair_not_at_start {c : Char} {rest : List Char}
    (apart : ∀ after, c = '\r' → rest = '\n' :: after → False) : ¬ ['\r', '\n'] <+: c :: rest := by
  rintro ⟨after, split⟩
  cases split
  exact apart after rfl rfl

theorem newline_prefix_plainLineFeeds_iff (text : List Char) :
    ['\n'] <+: plainLineFeeds text ↔ ['\n'] <+: text ∨ ['\r', '\n'] <+: text := by
  fun_cases plainLineFeeds text with
  | case1 rest => simp
  | case2 c rest apart => simp [pair_not_at_start apart]
  | case3 => simp

theorem pair_infix_plainLineFeeds_iff (text : List Char) :
    ['\r', '\n'] <:+: plainLineFeeds text ↔ ['\r', '\r', '\n'] <:+: text := by
  fun_induction plainLineFeeds text with
  | case1 rest ih => simp [List.infix_cons_iff, ih]
  | case2 c rest apart ih =>
      rw [List.infix_cons_iff, List.infix_cons_iff, ih, List.cons_prefix_cons,
        List.cons_prefix_cons, newline_prefix_plainLineFeeds_iff]
      apply or_congr_left
      apply and_congr_right
      rintro rfl
      apply or_iff_right
      rintro ⟨after, rfl⟩
      exact apart after rfl rfl
  | case3 => simp

theorem plainLineFeeds_eq_self_iff (text : List Char) :
    plainLineFeeds text = text ↔ ¬ ['\r', '\n'] <:+: text := by
  fun_induction plainLineFeeds text with
  | case1 rest ih => simp [List.infix_cons_iff]
  | case2 c rest apart ih =>
      rw [List.cons_inj_right, ih, List.infix_cons_iff, not_or]
      exact (and_iff_right (pair_not_at_start apart)).symm
  | case3 => simp

theorem dropFinalReturn_cons {c : Char} {rest : List Char} (kept : c ≠ '\r' ∨ rest ≠ []) :
    dropFinalReturn (c :: rest) = c :: dropFinalReturn rest := by
  cases rest with
  | nil => simp_all [dropFinalReturn]
  | cons d rest =>
      rw [dropFinalReturn, dropFinalReturn, List.getLast?_cons_cons]
      split <;> rfl

theorem plainLineFeeds_eq_nil_iff (text : List Char) : plainLineFeeds text = [] ↔ text = [] := by
  fun_cases plainLineFeeds text <;> simp

theorem plainLineFeeds_concat (text : List Char) :
    plainLineFeeds (text ++ ['\n']) = normalized text ++ ['\n'] := by
  rw [normalized]
  fun_induction plainLineFeeds text with
  | case1 rest ih =>
      rw [List.cons_append, List.cons_append, plainLineFeeds, ih,
        dropFinalReturn_cons (.inl (by decide)), List.cons_append]
  | case2 c rest apart ih =>
      by_cases final : c = '\r' ∧ rest = []
      · obtain ⟨rfl, rfl⟩ := final
        rfl
      · rw [Decidable.not_and_iff_not_or_not] at final
        rw [dropFinalReturn_cons (final.imp_right (mt (plainLineFeeds_eq_nil_iff rest).1)),
          List.cons_append, List.cons_append, ← ih, plainLineFeeds]
        intro after isReturn split
        cases rest with
        | nil => exact final.elim (absurd isReturn) (absurd rfl)
        | cons d rest =>
            cases split
            exact apart rest isReturn rfl
  | case3 => rfl

theorem infix_concat_iff (text before : List Char) (c : Char) :
    before ++ [c] <:+: text ++ [c] ↔ before ++ [c] <:+: text ∨ before <:+ text := by
  rw [List.infix_concat_iff, List.suffix_concat_iff, or_comm]
  simp

theorem isPlain_iff (text : List Char) : IsPlain text ↔ ¬ ['\r', '\n'] <:+: text ++ ['\n'] := by
  have cut := infix_concat_iff text ['\r'] '\n'
  rw [List.singleton_suffix_iff_getLast?_eq_some] at cut
  rw [← List.singleton_append, cut, not_or]
  exact ⟨fun plain => ⟨plain.noPair, plain.noFinalReturn⟩, fun ⟨pair, final⟩ => ⟨pair, final⟩⟩

theorem normalized_isPlain_iff (text : List Char) :
    IsPlain (normalized text) ↔ ¬ ['\r', '\r', '\n'] <:+: text ∧ ¬ ['\r', '\r'] <:+ text := by
  have cut := infix_concat_iff text ['\r', '\r'] '\n'
  rw [isPlain_iff, ← plainLineFeeds_concat, pair_infix_plainLineFeeds_iff, ← not_or]
  exact not_congr cut

theorem normalized_eq_self_iff (text : List Char) : normalized text = text ↔ IsPlain text := by
  rw [isPlain_iff, ← plainLineFeeds_eq_self_iff, plainLineFeeds_concat, List.append_left_inj]

theorem compute_is_plain_iff (source : String) (line : UInt64) (endLine : Option UInt64)
    (fix : Option Fix) (alternatives : Option (List Alternative)) (text : String)
    (suggested : compute source line endLine fix alternatives = some text) :
    ∃ chosen shown, Offers fix alternatives chosen ∧
      Rewrites source.toList line.toNat (endLine.map UInt64.toNat) chosen shown ∧
      (IsPlain text.toList ↔ ¬ ['\r', '\r', '\n'] <:+: shown ∧ ¬ ['\r', '\r'] <:+ shown) ∧
      (normalized text.toList = text.toList ↔ IsPlain text.toList) := by
  obtain ⟨chosen, offered, window, found, rfl⟩ := (compute_eq_some_iff _ _ _ _ _ _).1 suggested
  refine ⟨chosen, _, offered, (rewrites_iff found _).2 rfl, ?_, normalized_eq_self_iff _⟩
  rw [String.toList_ofList]
  exact normalized_isPlain_iff _

theorem compute_plain_among_returns :
    compute "a\rb\r\nc\r\n" 1 (some 2) (some ⟨0, 1, "x\r\n"⟩) none = some "x\n\rb\nc" ∧
    IsPlain "x\n\rb\nc".toList := by
  have suggested : compute "a\rb\r\nc\r\n" 1 (some 2) (some ⟨0, 1, "x\r\n"⟩) none =
      some "x\n\rb\nc" := by
    decide
  obtain ⟨chosen, shown, -, -, -, again⟩ := compute_is_plain_iff _ _ _ _ _ _ suggested
  exact ⟨suggested, again.1 (by decide)⟩

theorem compute_leaves_returns :
    compute "a\r\r\nb\r\r\n" 1 (some 2) (some ⟨0, 1, "c"⟩) none = some "c\r\nb\r" ∧
    ['\r', '\n'] <:+: "c\r\nb\r".toList ∧ "c\r\nb\r".toList.getLast? = some '\r' ∧
    normalized "c\r\nb\r".toList ≠ "c\r\nb\r".toList := by
  refine ⟨by decide, ⟨['c'], ['b', '\r'], by decide⟩, by decide, by decide⟩

end LintAdapter.Suggestion
