import Mathlib.Data.List.TakeWhile
import Mathlib.Order.Bounds.Defs
import Testbed.Config.Timeout
import Testbed.Proofs.Pace

/-!
# Overrides only widen

An override writes a number of seconds: decimal digits, perhaps behind a plus sign, with blanks
around them (`Writes`).

**Theorem (`override_widens`).** A text names a timeout if and only if it writes a number that is
positive and fits 64 bits. It is refused as zero if it writes zero, and as no number otherwise. An
accepted override gives the greater one of the two timeouts, and a refused one leaves the requested
timeout as it is. So no override shortens a timeout or changes the order of two, and none does
anything the second time.

A text is trimmed to what stands between its blanks (`trimBy_append`), and what is left is read
digit by digit (`decimalFrom_eq`), so the reader finds a number exactly where one is written
(`unsigned?_trimBy_iff`).
-/

namespace Testbed

/-! ## Texts without their ends -/

namespace Text

variable {p : Char → Bool}

/-- What is trimmed off stood at the ends. -/
theorem exists_eq_trimBy (p : Char → Bool) (cs : List Char) :
    ∃ before behind, cs = before ++ trimBy p cs ++ behind ∧ ∀ c ∈ before ++ behind, p c = true := by
  refine ⟨cs.takeWhile p, ((cs.dropWhile p).reverse.takeWhile p).reverse, ?_, ?_⟩
  · have hback : trimBy p cs ++ ((cs.dropWhile p).reverse.takeWhile p).reverse =
        cs.dropWhile p := by
      rw [trimBy, ← List.reverse_append, List.takeWhile_append_dropWhile, List.reverse_reverse]
    rw [List.append_assoc, hback, List.takeWhile_append_dropWhile]
  · refine List.forall_mem_append.mpr ⟨fun c => List.mem_takeWhile_imp, fun c hc => ?_⟩
    exact List.mem_takeWhile_imp (List.mem_reverse.mp hc)

/-- Dropping stops at what is not to be dropped. -/
theorem dropWhile_append_cons {ends : List Char} (hends : ∀ c ∈ ends, p c = true) {c : Char}
    (hc : p c = false) (rest : List Char) : (ends ++ c :: rest).dropWhile p = c :: rest := by
  rw [List.dropWhile_append_of_pos hends, List.dropWhile_cons_of_neg (by simp [hc])]

/-- What is trimmed is what stands between the ends. -/
theorem trimBy_append {before core behind : List Char}
    (hends : ∀ c ∈ before ++ behind, p c = true) (hne : core ≠ [])
    (hcore : ∀ c ∈ core, p c = false) :
    trimBy p (before ++ core ++ behind) = core := by
  obtain ⟨hbefore, hbehind⟩ := List.forall_mem_append.mp hends
  have hfront : (before ++ core ++ behind).dropWhile p = core ++ behind := by
    obtain ⟨c, rest, rfl⟩ := List.exists_cons_of_ne_nil hne
    rw [List.append_assoc]
    exact dropWhile_append_cons hbefore (hcore c List.mem_cons_self) _
  have hback : (behind.reverse ++ core.reverse).dropWhile p = core.reverse := by
    obtain ⟨c, rest, hc⟩ := List.exists_cons_of_ne_nil (List.reverse_ne_nil_iff.mpr hne)
    rw [hc]
    refine dropWhile_append_cons (fun d hd => hbehind d (List.mem_reverse.mp hd)) ?_ _
    exact hcore c (List.mem_reverse.mp (hc ▸ List.mem_cons_self))
  rw [trimBy, hfront, List.reverse_append, hback, List.reverse_reverse]

end Text

/-! ## The longer of two durations -/

namespace Duration

theorem nanos_longer (a b : Duration) : (a.longer b).nanos = max a.nanos b.nanos := by
  unfold longer
  split_ifs with h
  · exact (Nat.max_eq_right h).symm
  · exact (Nat.max_eq_left (Nat.le_of_not_le h)).symm

theorem isGreatest_longer (a b : Duration) : IsGreatest {a, b} (a.longer b) := by
  refine ⟨?_, ?_⟩
  · unfold longer
    split_ifs
    · exact .inr rfl
    · exact .inl rfl
  · rintro d (rfl | rfl) <;> rw [le_iff, nanos_longer]
    · exact Nat.le_max_left ..
    · exact Nat.le_max_right ..

end Duration

namespace Config

/-! ## Numbers in a text -/

/-- A text writes a number: in decimal digits, perhaps behind a plus sign, with blanks around. -/
def Writes (raw : String) (n : Nat) : Prop :=
  ∃ before sign digits behind, raw.toList = before ++ (sign ++ digits) ++ behind ∧
    (∀ c ∈ before ++ behind, Text.isBlank c = true) ∧ (sign = [] ∨ sign = ['+']) ∧
    digits ≠ [] ∧ (∀ c ∈ digits, c.isDigit = true) ∧ Nat.ofDigitChars 10 digits 0 = n

theorem decimalFrom_eq (acc : Nat) (cs : List Char) :
    decimalFrom acc cs =
      if cs.all Char.isDigit then some (Nat.ofDigitChars 10 cs acc) else none := by
  induction cs generalizing acc with
  | nil => simp [decimalFrom]
  | cons c rest ih =>
    by_cases hc : c.isDigit = true
    · rw [decimalFrom, if_pos hc, ih, Nat.ofDigitChars_cons, Nat.mul_comm]
      simp [hc]
    · rw [decimalFrom, if_neg hc, if_neg (by simp [hc])]

theorem decimal?_eq_some_iff {cs : List Char} {n : Nat} :
    decimal? cs = some n ↔
      cs ≠ [] ∧ (∀ c ∈ cs, c.isDigit = true) ∧ Nat.ofDigitChars 10 cs 0 = n := by
  cases cs with
  | nil => simp [decimal?]
  | cons c rest => simp only [decimal?, decimalFrom_eq, Option.ite_none_right_eq_some]; simp

/-- A number with a sign or without. -/
theorem unsigned?_eq_some_iff {cs : List Char} {n : Nat} :
    unsigned? cs = some n ↔ ∃ sign digits, cs = sign ++ digits ∧ (sign = [] ∨ sign = ['+']) ∧
      decimal? digits = some n := by
  constructor
  · intro h
    unfold unsigned? at h
    split at h
    · exact ⟨['+'], _, rfl, .inr rfl, h⟩
    · exact ⟨[], cs, rfl, .inl rfl, h⟩
  · rintro ⟨sign, digits, rfl, rfl | rfl, h⟩
    · obtain ⟨hne, hdigits, -⟩ := decimal?_eq_some_iff.mp h
      obtain ⟨c, rest, rfl⟩ := List.exists_cons_of_ne_nil hne
      have hc : c ≠ '+' := by
        rintro rfl
        exact absurd (hdigits _ List.mem_cons_self) (by decide)
      rw [List.nil_append, unsigned?.eq_def]
      split
      · rename_i heq
        exact absurd (List.cons.inj heq).1 hc
      · exact h
    · exact h

/-- Neither a digit nor a plus sign is blank. -/
theorem isBlank_of_isDigit {c : Char} (h : c.isDigit = true) : Text.isBlank c = false := by
  simp only [Char.isDigit, Bool.and_eq_true, decide_eq_true_eq, ge_iff_le, UInt32.le_iff_toNat_le]
    at h
  have hlow : 48 ≤ c.toNat := h.1
  have hhigh : c.toNat ≤ 57 := h.2
  simp only [Text.isBlank, Bool.or_eq_false_iff, Bool.and_eq_false_iff, decide_eq_false_iff_not,
    beq_eq_false_iff_ne]
  omega

/-- **A number is found exactly where one is written.** -/
theorem unsigned?_trimBy_iff {raw : String} {n : Nat} :
    unsigned? (Text.trimBy Text.isBlank raw.toList) = some n ↔ Writes raw n := by
  rw [unsigned?_eq_some_iff]
  constructor
  · rintro ⟨sign, digits, htrim, hsign, hdigits⟩
    obtain ⟨before, behind, hraw, hends⟩ := Text.exists_eq_trimBy Text.isBlank raw.toList
    rw [htrim] at hraw
    exact ⟨before, sign, digits, behind, hraw, hends, hsign, decimal?_eq_some_iff.mp hdigits⟩
  · rintro ⟨before, sign, digits, behind, hraw, hends, hsign, hdigits⟩
    refine ⟨sign, digits, ?_, hsign, decimal?_eq_some_iff.mpr hdigits⟩
    rw [hraw]
    refine Text.trimBy_append hends (by simp [hdigits.1]) (List.forall_mem_append.mpr ⟨?_, ?_⟩)
    · rcases hsign with rfl | rfl
      · simp
      · exact List.forall_mem_singleton.mpr (by decide)
    · exact fun c hc => isBlank_of_isDigit (hdigits.2.1 c hc)

/-! ## Overrides -/

/-- A text writes one number at most. -/
theorem Writes.iff_eq {raw : String} {n : Nat} (h : Writes raw n) (m : Nat) :
    Writes raw m ↔ m = n := by
  rw [← unsigned?_trimBy_iff] at h
  rw [← unsigned?_trimBy_iff, h, Option.some.injEq, eq_comm]

/-- What a text is read as, by what it writes. -/
theorem parseTimeout_of_writes {raw : String} {n : Nat} (h : Writes raw n) :
    parseTimeout raw =
      if n = 0 then .error .zero
      else if n < 2 ^ 64 then .ok (.ofSecs n) else .error .notANumber := by
  rw [parseTimeout, unsigned?_trimBy_iff.mpr h]
  cases n <;> rfl

theorem parseTimeout_of_not_writes {raw : String} (h : ∀ n, ¬Writes raw n) :
    parseTimeout raw = .error .notANumber := by
  cases hn : unsigned? (Text.trimBy Text.isBlank raw.toList) with
  | none => rw [parseTimeout, hn]
  | some n => exact absurd (unsigned?_trimBy_iff.mp hn) (h n)

theorem parseTimeout_eq_ok_iff {raw : String} {d : Duration} : parseTimeout raw = .ok d ↔
    ∃ n, Writes raw n ∧ 1 ≤ n ∧ n ≤ 2 ^ 64 - 1 ∧ d = .ofSecs n := by
  by_cases h : ∃ n, Writes raw n
  · obtain ⟨n, hn⟩ := h
    simp only [parseTimeout_of_writes hn, hn.iff_eq, exists_eq_left]
    split_ifs with hzero hfits
    · simp [hzero]
    · rw [Except.ok.injEq, eq_comm]
      exact ⟨fun hd => ⟨by omega, by omega, hd⟩, fun hd => hd.2.2⟩
    · exact iff_of_false (by simp) (by omega)
  · rw [not_exists] at h
    simp [parseTimeout_of_not_writes h, h]

theorem parseTimeout_eq_zero_iff {raw : String} :
    parseTimeout raw = .error .zero ↔ Writes raw 0 := by
  by_cases h : ∃ n, Writes raw n
  · obtain ⟨n, hn⟩ := h
    rw [parseTimeout_of_writes hn, hn.iff_eq]
    split_ifs with hzero hfits <;> simp [hzero, eq_comm]
  · rw [not_exists] at h
    simp [parseTimeout_of_not_writes h, h]

theorem parseTimeout_eq_notANumber_iff {raw : String} :
    parseTimeout raw = .error .notANumber ↔ ∀ n, Writes raw n → 2 ^ 64 - 1 < n := by
  by_cases h : ∃ n, Writes raw n
  · obtain ⟨n, hn⟩ := h
    simp only [parseTimeout_of_writes hn, hn.iff_eq, forall_eq]
    split_ifs with hzero hfits
    · simp [hzero]
    · exact iff_of_false (by simp) (by omega)
    · exact iff_of_true rfl (by omega)
  · rw [not_exists] at h
    exact iff_of_true (parseTimeout_of_not_writes h) fun n hn => absurd hn (h n)

/-- What an override asks for at least: nothing if there is none or it is refused. -/
def leastTimeout (override : Option String) : Duration :=
  match override.map parseTimeout with
  | some (.ok d) => d
  | _ => ⟨0⟩

theorem nanos_resolveTimeout (override : Option String) (requested : Duration) :
    (resolveTimeout override requested).nanos =
      max requested.nanos (leastTimeout override).nanos := by
  cases override with
  | none => simp [resolveTimeout, resolveTimeout?, leastTimeout]
  | some raw =>
    cases h : parseTimeout raw with
    | ok d =>
      simp [resolveTimeout, resolveTimeout?, leastTimeout, h, Except.map, Duration.nanos_longer]
    | error e => simp [resolveTimeout, resolveTimeout?, leastTimeout, h, Except.map]

/-- **Overrides only widen.** Take any text, and any timeout that is requested.

1. The text names a timeout if and only if it writes a number of seconds that is positive and fits
   64 bits. It is refused as zero if and only if it writes zero, and as no number if and only if it
   writes none, or one beyond 64 bits.
2. If the text names a timeout, the greater one of the two is in force. If it is refused, then so is
   the override, and the requested timeout stays in force where refusals are ignored.
3. Whatever the override is, and if there is none, the timeout in force is no shorter than the
   requested one, keeps the order of what is requested, and stays when the override is applied
   again. -/
theorem override_widens (raw : String) (requested : Duration) :
    ((∀ d, parseTimeout raw = .ok d ↔
        ∃ n, Writes raw n ∧ 1 ≤ n ∧ n ≤ 2 ^ 64 - 1 ∧ d = .ofSecs n) ∧
      (parseTimeout raw = .error .zero ↔ Writes raw 0) ∧
      (parseTimeout raw = .error .notANumber ↔ ∀ n, Writes raw n → 2 ^ 64 - 1 < n) ∧
      TimeoutError.zero.message = "SDK_TEST_HELPERS_TIMEOUT_SEC must be greater than zero" ∧
      TimeoutError.notANumber.message =
        "SDK_TEST_HELPERS_TIMEOUT_SEC must be a positive integer number of seconds") ∧
    ((∀ d, parseTimeout raw = .ok d → ∃ m, IsGreatest {requested, d} m ∧
        resolveTimeout? (some raw) requested = .ok m ∧ resolveTimeout (some raw) requested = m) ∧
      ∀ e, parseTimeout raw = .error e →
        resolveTimeout? (some raw) requested = .error e ∧
        resolveTimeout (some raw) requested = requested) ∧
    ∀ override, requested ≤ resolveTimeout override requested ∧
      (∀ other, requested ≤ other →
        resolveTimeout override requested ≤ resolveTimeout override other) ∧
      resolveTimeout override (resolveTimeout override requested) =
        resolveTimeout override requested := by
  refine ⟨⟨fun d => parseTimeout_eq_ok_iff, parseTimeout_eq_zero_iff,
    parseTimeout_eq_notANumber_iff, rfl, rfl⟩, ⟨fun d h => ?_, fun e h => ?_⟩,
    fun override => ⟨?_, ?_, ?_⟩⟩
  · exact ⟨_, Duration.isGreatest_longer requested d, by simp [resolveTimeout?, h, Except.map],
      by simp [resolveTimeout, resolveTimeout?, h, Except.map]⟩
  · simp [resolveTimeout, resolveTimeout?, h, Except.map]
  · rw [Duration.le_iff, nanos_resolveTimeout]
    exact Nat.le_max_left ..
  · intro other h
    rw [Duration.le_iff, nanos_resolveTimeout, nanos_resolveTimeout]
    exact max_le_max_right _ h
  · have hnanos : (resolveTimeout override (resolveTimeout override requested)).nanos =
        (resolveTimeout override requested).nanos := by
      simp only [nanos_resolveTimeout, max_assoc, max_self]
    exact congrArg Duration.mk hnanos

/-- Thirty seconds, with a sign, leading zeros and blanks beyond ASCII, for one and a half. -/
theorem padded_thirty_widens :
    let raw := "\u2003+0030\n"
    parseTimeout raw = .ok (.ofSecs 30) ∧
    resolveTimeout (some raw) (.ofMillis 1500) = .ofSecs 30 ∧
    resolveTimeout (some raw) (.ofMillis 1500) ≤ resolveTimeout (some raw) (.ofMillis 30001) ∧
    parseTimeout "18446744073709551616" = .error .notANumber := by
  intro raw
  have hwrites : Writes raw 30 :=
    ⟨['\u2003'], ['+'], "0030".toList, ['\n'], by decide, by simp [Text.isBlank], .inr rfl, by simp,
      by simp, by decide⟩
  have hbeyond : Writes "18446744073709551616" (2 ^ 64) :=
    ⟨[], [], "18446744073709551616".toList, [], by simp, by simp, .inl rfl, by simp, by simp,
      by decide⟩
  obtain ⟨⟨hok, -⟩, ⟨hlonger, -⟩, hkeeps⟩ := override_widens raw (.ofMillis 1500)
  obtain ⟨⟨-, -, hnone, -⟩, -⟩ := override_widens "18446744073709551616" (.ofMillis 1500)
  have hparse : parseTimeout raw = .ok (.ofSecs 30) :=
    (hok _).mpr ⟨30, hwrites, by decide, by decide, rfl⟩
  obtain ⟨m, hm, -, hresolve⟩ := hlonger _ hparse
  refine ⟨hparse, ?_, (hkeeps (some raw)).2.1 _ (by decide), ?_⟩
  · rcases hm.1 with rfl | rfl
    · exact absurd (hm.2 (.inr rfl)) (by decide)
    · exact hresolve
  · exact hnone.mpr fun n hn => by rw [(hbeyond.iff_eq n).mp hn]; decide

end Config
end Testbed
