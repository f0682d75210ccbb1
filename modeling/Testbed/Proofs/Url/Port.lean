import Testbed.Proofs.Url.Pasted

/-!
# Ports behind a host

A host that names a port is pasted before a target like any other. If the target begins with a slash
or a question mark (`IsDelimited`), the port ends there; an asterisk ends up behind its digits.

**Theorem (`parse_localhost`).** With a target of the first kind, the name `localhost` and any port
make a URL.

**Theorem (`parse_asterisk`).** With an asterisk, no plain host that names a port makes one:
whatever else its text is, an asterisk is not a digit (`parsePort_asterisk`).
-/

namespace Testbed.Url

/-! ## Digits -/

theorem digitsValue_eq (cs : List Char) : digitsValue cs = Nat.ofDigitChars 10 cs 0 := by
  unfold digitsValue Nat.ofDigitChars
  congr 1
  funext n c
  rw [Nat.mul_comm]
  rfl

theorem digitsValue_toDigits (n : Nat) : digitsValue (Nat.toDigits 10 n) = n := by
  rw [digitsValue_eq, Nat.ofDigitChars_ten_toDigits]

theorem isDigit_of_mem_toDigits {n : Nat} {c : Char} (h : c ∈ Nat.toDigits 10 n) :
    c.isDigit = true :=
  Nat.isDigit_of_mem_toDigits (by decide) (by decide) h

/-- The digits of a number that is not too great are a port. -/
theorem parsePort_toDigits (kind : SchemeKind) {n : Nat} (h : n ≤ 65535) :
    ∃ port, parsePort kind (Nat.toDigits 10 n) = .ok (port, []) := by
  have htake : (Nat.toDigits 10 n).takeWhile Char.isDigit = Nat.toDigits 10 n :=
    List.takeWhile_eq_self_iff.mpr fun c => isDigit_of_mem_toDigits
  have hdrop : (Nat.toDigits 10 n).dropWhile Char.isDigit = [] :=
    List.dropWhile_eq_nil_iff.mpr fun c => isDigit_of_mem_toDigits
  simp only [parsePort, htake, hdrop, digitsValue_toDigits, if_neg (Nat.not_lt.mpr h)]
  exact ⟨_, rfl⟩

/-- **An asterisk is not part of a port**, and does not end one. -/
theorem parsePort_asterisk (kind : SchemeKind) {cs : List Char} (h : '\\' ∉ cs) :
    parsePort kind (cs ++ ['*']) = .error .port := by
  have hne : (cs ++ ['*']).dropWhile Char.isDigit ≠ [] := by
    intro hnil
    have := List.dropWhile_eq_nil_iff.mp hnil '*' (by simp)
    exact absurd this (by decide)
  obtain ⟨c, rest, hrest⟩ := List.exists_cons_of_ne_nil hne
  have hc : c ≠ '\\' := by
    rintro rfl
    have hmem : '\\' ∈ cs ++ ['*'] := List.dropWhile_subset _ (hrest ▸ List.mem_cons_self)
    rcases List.mem_append.mp hmem with hmem | hmem
    · exact h hmem
    · exact absurd hmem (by decide)
  simp only [parsePort, hrest, if_neg hc, ite_self]

/-! ## What stands behind an authority -/

/-- What is put behind a text that has an at sign or not comes behind its server. -/
theorem splitLogin_concat (cs : List Char) {c : Char} (hc : c ≠ '@') :
    splitLogin (cs ++ [c]) = ((splitLogin cs).1, (splitLogin cs).2 ++ [c]) := by
  have hback : ((cs ++ [c]).reverse.takeWhile (· != '@')).reverse =
      (cs.reverse.takeWhile (· != '@')).reverse ++ [c] := by
    simp [hc]
  unfold splitLogin splitLast
  rw [hback]
  simp only [List.length_append, List.length_singleton, Nat.add_right_cancel_iff]
  split_ifs with hlength
  · rfl
  · have hle : ((cs.reverse.takeWhile (· != '@')).reverse).length ≤ cs.length := by
      rw [List.length_reverse, ← cs.length_reverse]
      exact (List.takeWhile_prefix _).length_le
    rw [List.take_append_of_le_length (by omega), Nat.add_sub_add_right]

/-- What is put behind a host that names a port comes behind the port. -/
theorem splitHost_append (inBrackets : Bool) (cs more : List Char)
    (h : (splitHost inBrackets cs).2 ≠ []) :
    splitHost inBrackets (cs ++ more) =
      ((splitHost inBrackets cs).1, (splitHost inBrackets cs).2 ++ more) := by
  induction cs generalizing inBrackets with
  | nil => exact absurd rfl h
  | cons c cs ih =>
    simp only [List.cons_append, splitHost] at h ⊢
    split_ifs at h ⊢
    · rfl
    all_goals rw [ih _ h]

/-- Whether a host names a port, be it an empty one. -/
def NamesPort (host : List Char) : Prop := (splitHost false (splitLogin (core host)).2).2 ≠ []

instance (host : List Char) : Decidable (NamesPort host) := inferInstanceAs (Decidable (_ ≠ _))

/-! ## Asterisks -/

theorem readServer_asterisk (kind : SchemeKind) (login : Option (List Char)) {server : List Char}
    (hserver : '\\' ∉ server) (hport : (splitHost false server).2 ≠ []) (rest : List Char) :
    ∃ e, readServer kind login (server ++ ['*']) rest = .error e := by
  obtain ⟨c, digits, hdigits⟩ := List.exists_cons_of_ne_nil hport
  have hbad : parsePort kind (digits ++ ['*']) = .error .port := by
    refine parsePort_asterisk kind fun hmem => hserver ?_
    exact mem_of_splitHost false server (hdigits ▸ List.mem_cons_of_mem c hmem)
  simp only [readServer, splitHost_append false server ['*'] hport, hdigits, List.cons_append, hbad,
    bind, Except.bind, throw, throwThe, MonadExceptOf.throw]
  cases parseHost kind (splitHost false server).1 with
  | error e => exact ⟨e, rfl⟩
  | ok host =>
    dsimp only
    split_ifs <;> exact ⟨_, rfl⟩

variable {scheme host target : String}

/-- **An asterisk behind a host that names a port** makes no URL. -/
theorem parse_asterisk (hs : IsWeb scheme) (hhost : IsPlain host.toList)
    (hport : NamesPort host.toList) :
    ∃ e, parse (scheme ++ "://" ++ host ++ "*") = .error e := by
  obtain ⟨p, hp⟩ := hs.schemeKind
  have hall : ∀ c ∈ core host.toList ++ ['*'], (!ends c) = true := by
    intro c hc
    rcases List.mem_append.mp hc with hc | hc
    · rw [hhost.2 c hc, Bool.not_false]
    · rw [List.mem_singleton.mp hc]
      decide
  have htake := List.takeWhile_eq_self_iff.mpr hall
  have hserver : '\\' ∉ (splitLogin (core host.toList)).2 := by
    intro hmem
    have := hhost.2 _ (mem_of_splitLogin hmem)
    exact absurd this (by decide)
  obtain ⟨e, he⟩ := readServer_asterisk (.special p) (splitLogin (core host.toList)).1 hserver hport
    ((core host.toList ++ ['*']).dropWhile (!ends ·))
  have hclean : clean "*".toList = ['*'] := by decide
  rw [parse_pasted hs host ⟨'*', [], rfl, by decide⟩, hp, pasted_of_core hhost.1, hclean,
    parseWithAuthority_special, htake, parseAuthority_eq, splitLogin_concat _ (by decide), he]
  split_ifs <;> exact ⟨_, rfl⟩

/-! ## The server's own address -/

/-- A text that begins with a slash or a question mark. -/
def IsDelimited (s : String) : Prop := ∃ b back, s.toList = b :: back ∧ (b = '/' ∨ b = '?')

theorem IsDelimited.isFlush (h : IsDelimited target) : IsFlush target := by
  obtain ⟨b, back, ht, hb⟩ := h
  refine ⟨b, back, ht, ?_⟩
  rcases hb with rfl | rfl <;> decide

/-- A text that does not begin with a blank keeps its first character when it is cleaned. -/
theorem clean_cons {b : Char} (hb : ¬b ≤ ' ') (back : List Char) :
    ∃ back', clean (b :: back) = b :: back' := by
  have hdrop (cs : List Char) : (b :: cs).dropWhile (· ≤ ' ') = b :: cs :=
    List.dropWhile_cons_of_neg (by simpa using hb)
  obtain ⟨front, hfront⟩ :
      ∃ front, (b :: back).reverse.dropWhile (· ≤ ' ') = front ++ [b] := by
    rw [List.reverse_cons, List.dropWhile_append, hdrop]
    split_ifs
    · exact ⟨[], rfl⟩
    · exact ⟨_, rfl⟩
  have hkeep : (!(b == '\t' || b == '\n' || b == '\r')) = true := by
    by_contra hblank
    simp only [Bool.not_eq_true, Bool.not_eq_false', Bool.or_eq_true, beq_iff_eq] at hblank
    rcases hblank with (rfl | rfl) | rfl <;> exact hb (by decide)
  unfold clean
  rw [hdrop, hfront, List.reverse_append, List.reverse_singleton, List.singleton_append]
  exact ⟨_, List.filter_cons_of_pos hkeep⟩

theorem splitLogin_of_not_mem {cs : List Char} (h : '@' ∉ cs) : splitLogin cs = (none, cs) := by
  have htake : cs.reverse.takeWhile (· != '@') = cs.reverse := by
    refine List.takeWhile_eq_self_iff.mpr fun c hc => bne_iff_ne.mpr ?_
    rintro rfl
    exact h (List.mem_reverse.mp hc)
  simp [splitLogin, splitLast, htake]

/-- The name `localhost` and a port. -/
def localhost (port : Nat) : List Char := "localhost:".toList ++ Nat.toDigits 10 port

theorem toList_localhost (port : Nat) :
    ("localhost:" ++ toString port).toList = localhost port := by
  rw [String.toList_append, Nat.toString_eq_repr, Nat.toList_repr]
  rfl

theorem not_mem_localhost {c : Char} (hdigit : c.isDigit = false) (hname : c ∉ "localhost:".toList)
    (port : Nat) : c ∉ localhost port := by
  intro hmem
  rcases List.mem_append.mp hmem with hmem | hmem
  · exact hname hmem
  · rw [isDigit_of_mem_toDigits hmem] at hdigit
    cases hdigit

theorem core_localhost (port : Nat) : core (localhost port) = localhost port := by
  have hkeep : ∀ c ∈ localhost port, (!(c == '\t' || c == '\n' || c == '\r')) = true := by
    intro c hc
    by_contra hblank
    simp only [Bool.not_eq_true, Bool.not_eq_false', Bool.or_eq_true, beq_iff_eq] at hblank
    rcases hblank with (rfl | rfl) | rfl <;>
      exact not_mem_localhost (by decide) (by decide) port hc
  rw [core, strip, List.filter_eq_self.mpr hkeep]
  rfl

theorem isPlain_localhost (port : Nat) : IsPlain (localhost port) := by
  rw [IsPlain, core_localhost]
  refine ⟨List.append_ne_nil_of_left_ne_nil (by decide) _, fun c hc => ?_⟩
  by_contra hends
  simp only [ends, isSlash, endsPath, Bool.not_eq_false, Bool.or_eq_true, beq_iff_eq] at hends
  rcases hends with (rfl | rfl) | rfl | rfl <;>
    exact not_mem_localhost (by decide) (by decide) port hc

theorem splitHost_localhost (port : Nat) : splitHost false (localhost port) =
    ("localhost".toList, ':' :: Nat.toDigits 10 port) :=
  splitHost_append false "localhost:".toList _ (by decide)

theorem splitLogin_localhost (port : Nat) :
    splitLogin (localhost port) = (none, localhost port) :=
  splitLogin_of_not_mem (not_mem_localhost (by decide) (by decide) port)

theorem namesPort_localhost (port : Nat) : NamesPort (localhost port) := by
  rw [NamesPort, core_localhost, splitLogin_localhost, splitHost_localhost]
  exact List.cons_ne_nil _ _

theorem parseHost_localhost (p : Nat) :
    parseHost (.special p) "localhost".toList = .ok (.domain "localhost") := by
  have hparse : Host.parse "localhost".toList = .ok (.domain "localhost") := by
    decide +kernel
  exact hparse

/-- The name `localhost` and a port are an authority. -/
theorem parseAuthority_localhost (p : Nat) {port : Nat} (hport : port ≤ 65535) (rest : List Char) :
    ∃ a, parseAuthority (.special p) (localhost port) rest = .ok (a, rest) := by
  obtain ⟨given, hgiven⟩ := parsePort_toDigits (.special p) hport
  have hname : ¬Host.domain "localhost" = .domain "" := by decide
  rw [parseAuthority_eq, splitLogin_localhost, if_neg (by simp)]
  simp only [readServer, splitHost_localhost, parseHost_localhost, hgiven, bind, Except.bind, pure,
    Except.pure, hname, false_and, if_false]
  exact ⟨_, rfl⟩

/-- **The name `localhost` and a port make a URL** with every target at which an authority ends. -/
theorem parse_localhost (hs : IsWeb scheme) {port : Nat} (hport : port ≤ 65535)
    (ht : IsDelimited target) :
    ∃ u, parse (scheme ++ "://" ++ ("localhost:" ++ toString port) ++ target) = .ok u := by
  obtain ⟨p, hp⟩ := hs.schemeKind
  have hplain := isPlain_localhost port
  rw [parse_pasted hs _ ht.isFlush, hp, toList_localhost, pasted_of_core hplain.1,
    parseWithAuthority_special]
  obtain ⟨b, back, htarget, hb⟩ := ht
  have hblank : ¬b ≤ ' ' := by rcases hb with rfl | rfl <;> decide
  have hends : (!ends b) = false := by rcases hb with rfl | rfl <;> decide
  obtain ⟨back', hclean⟩ := clean_cons hblank back
  have hall : ∀ c ∈ core (localhost port), (!ends c) = true := by
    intro c hc
    rw [hplain.2 c hc, Bool.not_false]
  rw [htarget, hclean, List.takeWhile_append_of_pos hall, List.dropWhile_append_of_pos hall,
    List.takeWhile_cons_of_neg (by simp [hends]), List.append_nil, core_localhost]
  obtain ⟨a, ha⟩ := parseAuthority_localhost p hport ((b :: back').dropWhile (!ends ·))
  rw [ha]
  exact ⟨_, rfl⟩

end Testbed.Url
