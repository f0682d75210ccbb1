import Mathlib.Data.List.TakeWhile
import Testbed.Proofs.Url.Path
import Testbed.Url.Parser

/-!
# URLs that are pasted together

The URL of a request is put together as a text, of a scheme, a host and a target, and then read
(`parse_pasted`). Where the host ends and the target begins leaves no trace in the text.

**Plain hosts.** A host is plain if all of it, the slashes at its front apart, is read as an
authority (`IsPlain`). A plain host leaves path and query to the target (`pathQuery_of_isPlain`).

**Other hosts** put what stands behind their authority before the target (`parse_of_tail`), or have
no authority at all and make one of the target (`parse_of_core_nil`).

An authority is read without regard to what follows it (`parseAuthority_congr`), which is why the
same hosts make a URL with every target.
-/

namespace Testbed.Url

/-! ## Blanks -/

/-- A text without tabs and line breaks. -/
def strip (cs : List Char) : List Char := cs.filter fun c => !(c == '\t' || c == '\n' || c == '\r')

/-- Texts of which neither begins with a blank can be cleaned one by one; only the second can lose
blanks at its end. -/
theorem clean_append {a b : Char} {front back : List Char} (ha : ¬a ≤ ' ') (hb : ¬b ≤ ' ') :
    clean (a :: front ++ b :: back) = strip (a :: front) ++ clean (b :: back) := by
  have hdrop (c : Char) (hc : ¬c ≤ ' ') (cs : List Char) :
      (c :: cs).dropWhile (· ≤ ' ') = c :: cs := List.dropWhile_cons_of_neg (by simpa using hc)
  have hne : ((b :: back).reverse.dropWhile (· ≤ ' ')).isEmpty = false := by
    rw [List.isEmpty_eq_false_iff]
    intro h
    have := List.dropWhile_eq_nil_iff.mp h b (by simp)
    exact hb (by simpa using this)
  unfold clean
  rw [List.cons_append, hdrop a ha, hdrop b hb, ← List.cons_append, List.reverse_append,
    List.dropWhile_append, hne, if_neg (by simp), List.reverse_append, List.reverse_reverse,
    List.filter_append, strip]

theorem strip_append (as bs : List Char) : strip (as ++ bs) = strip as ++ strip bs :=
  List.filter_append ..

/-! ## Schemes -/

/-- Whether a character ends the authority of a special scheme. -/
def ends (c : Char) : Bool := isSlash c || endsPath c

theorem endsAuthority_special (p : Nat) : endsAuthority (.special p) = ends := by
  funext c
  simp only [endsAuthority, ends, isSlash, endsPath, SchemeKind.isSpecial, Bool.true_and]
  cases c == '/' <;> cases c == '?' <;> cases c == '#' <;> cases c == '\\' <;> rfl

/-- The schemes of servers. -/
def IsWeb (scheme : String) : Prop := scheme = "http" ∨ scheme = "https"

theorem IsWeb.schemeKind {scheme : String} (h : IsWeb scheme) :
    ∃ p, schemeKind scheme = .special p := by
  rcases h with rfl | rfl
  · exact ⟨80, rfl⟩
  · exact ⟨443, rfl⟩

theorem IsWeb.splitScheme {scheme : String} (h : IsWeb scheme) (cs : List Char) :
    splitScheme (scheme.toList ++ ':' :: cs) = some (scheme, cs) := by
  rcases h with rfl | rfl <;> rfl

/-! ## Authorities -/

theorem mem_of_splitLast {sep c : Char} {cs front back : List Char}
    (h : splitLast sep cs = some (front, back)) (hc : c ∈ back) : c ∈ cs := by
  simp only [splitLast] at h
  split_ifs at h
  cases h
  rw [List.mem_reverse] at hc
  exact List.mem_reverse.mp (List.takeWhile_subset _ hc)

theorem mem_of_splitHost {c : Char} (inBrackets : Bool) (cs : List Char)
    (hc : c ∈ (splitHost inBrackets cs).2) : c ∈ cs := by
  induction cs generalizing inBrackets with
  | nil => cases hc
  | cons d cs ih =>
    simp only [splitHost] at hc
    split_ifs at hc
    · exact hc
    all_goals exact List.mem_cons_of_mem d (ih _ hc)

/-- A port ends at a backslash or at the end of its text. -/
theorem parsePort_left {kind : SchemeKind} {cs left : List Char} {port : Option Nat}
    (hcs : '\\' ∉ cs) (h : parsePort kind cs = .ok (port, left)) : left = [] := by
  simp only [parsePort] at h
  split_ifs at h
  cases hd : cs.dropWhile Char.isDigit with
  | nil => simp_all
  | cons c rest =>
    have hc : c ≠ '\\' := by
      rintro rfl
      exact hcs (List.dropWhile_subset _ (hd ▸ List.mem_cons_self))
    simp [hd, hc] at h

/-- Login and server of an authority. -/
def splitLogin (cs : List Char) : Option (List Char) × List Char :=
  match splitLast '@' cs with
  | some (login, server) => (some login, server)
  | none => (none, cs)

/-- Reads a login and a server. -/
def readServer (kind : SchemeKind) (login : Option (List Char)) (server rest : List Char) :
    Except Error (Authority × List Char) := do
  let (user, password) := parseLogin (login.getD [])
  let (hostText, portText) := splitHost false server
  let host ← parseHost kind hostText
  if host = .domain "" ∧ !portText.isEmpty then throw .emptyHost
  let (port, left) ← match portText with
    | _ :: digits => parsePort kind digits
    | [] => pure (none, [])
  if host = .domain "" ∧ !(user.isEmpty && password.isEmpty) then throw .emptyHost
  return (⟨user, password, host, port⟩, left ++ rest)

theorem parseAuthority_eq (kind : SchemeKind) (text rest : List Char) :
    parseAuthority kind text rest =
      if (splitLogin text).1 = some [] ∧ (splitLogin text).2.isEmpty ∧ !rest.isEmpty then
        .error .emptyHost
      else readServer kind (splitLogin text).1 (splitLogin text).2 rest := by
  unfold parseAuthority splitLogin
  rcases splitLast '@' text with _ | ⟨login, server⟩ <;> rfl

theorem mem_of_splitLogin {c : Char} {cs : List Char} (hc : c ∈ (splitLogin cs).2) : c ∈ cs := by
  unfold splitLogin at hc
  cases hs : splitLast '@' cs with
  | none => simpa [hs] using hc
  | some parts =>
    rw [hs] at hc
    exact mem_of_splitLast hs hc

theorem readServer_congr (kind : SchemeKind) (login : Option (List Char)) {server : List Char}
    (hserver : '\\' ∉ server) (rest rest' : List Char) :
    readServer kind login server rest' =
      (readServer kind login server rest).map fun p => (p.1, rest') := by
  simp only [readServer, bind, Except.bind, pure, Except.pure, throw, throwThe, MonadExceptOf.throw]
  cases parseHost kind (splitHost false server).1 with
  | error e => rfl
  | ok host =>
    cases hport : (splitHost false server).2 with
    | nil =>
      dsimp only
      split_ifs <;> rfl
    | cons c digits =>
      cases hp : parsePort kind digits with
      | error e =>
        simp only [hp]
        split_ifs <;> rfl
      | ok port =>
        have hleft : port.2 = [] := parsePort_left (fun hmem =>
          hserver (mem_of_splitHost false server (hport ▸ List.mem_cons_of_mem c hmem))) hp
        simp only [hp, hleft]
        split_ifs <;> rfl

/-- An authority does not depend on what follows it, but that something does. -/
theorem parseAuthority_congr (kind : SchemeKind) {text rest rest' : List Char}
    (htext : '\\' ∉ text) (hrest : rest'.isEmpty = rest.isEmpty) :
    parseAuthority kind text rest' = (parseAuthority kind text rest).map fun p => (p.1, rest') := by
  rw [parseAuthority_eq, parseAuthority_eq, hrest]
  split_ifs
  · rfl
  · exact readServer_congr kind _ (fun hmem => htext (mem_of_splitLogin hmem)) rest rest'

/-! ## Behind the authority -/

/-- Path and query of a URL. -/
def pathQuery (u : Url) : String × Option String := (u.path, u.query)

/-- Path and query that are read from what follows an authority. -/
def behind (cs : List Char) : String × Option String :=
  pathQuery (withRest "" none (.special 80) cs)

theorem parseWithAuthority_special (scheme : String) (p : Nat) (cs : List Char) :
    parseWithAuthority scheme (.special p) cs =
      (parseAuthority (.special p) (cs.takeWhile (!ends ·)) (cs.dropWhile (!ends ·))).map fun a =>
        withRest scheme (some a.1) (.special p) a.2 := by
  unfold parseWithAuthority
  rw [endsAuthority_special]
  rfl

theorem backslash_not_mem (cs : List Char) : '\\' ∉ cs.takeWhile (!ends ·) := by
  intro h
  have := List.mem_takeWhile_imp h
  simp [ends, isSlash] at this

/-- Texts with the same authority are read alike up to what is behind it. -/
theorem parseWithAuthority_congr {scheme : String} {p : Nat} {cs cs' : List Char} {u : Url}
    (h : parseWithAuthority scheme (.special p) cs = .ok u)
    (htext : cs'.takeWhile (!ends ·) = cs.takeWhile (!ends ·))
    (hrest : (cs'.dropWhile (!ends ·)).isEmpty = (cs.dropWhile (!ends ·)).isEmpty) :
    ∃ u', parseWithAuthority scheme (.special p) cs' = .ok u' ∧
      pathQuery u' = behind (cs'.dropWhile (!ends ·)) := by
  rw [parseWithAuthority_special] at h ⊢
  rw [htext, parseAuthority_congr _ (backslash_not_mem cs) hrest]
  cases ha : parseAuthority (.special p) (cs.takeWhile (!ends ·)) (cs.dropWhile (!ends ·)) with
  | error e => simp [ha, Except.map] at h
  | ok a => exact ⟨_, rfl, rfl⟩

theorem pathQuery_of_parse {scheme : String} {p : Nat} {cs : List Char} {u : Url}
    (h : parseWithAuthority scheme (.special p) cs = .ok u) :
    pathQuery u = behind (cs.dropWhile (!ends ·)) := by
  obtain ⟨u', hu', hp⟩ := parseWithAuthority_congr h rfl rfl
  rw [h, Except.ok.injEq] at hu'
  rw [hu', hp]

/-! ## Hosts and targets -/

/-- A text that begins, and not with a blank. -/
def IsFlush (s : String) : Prop := ∃ b back, s.toList = b :: back ∧ ¬b ≤ ' '

/-- What is read behind the scheme of a URL that is pasted together. -/
def pasted (host target : List Char) : List Char := (strip host ++ clean target).dropWhile isSlash

/-- A URL that is pasted together is read behind its scheme. -/
theorem parse_pasted {scheme : String} (hs : IsWeb scheme) (host : String) {target : String}
    (ht : IsFlush target) :
    parse (scheme ++ "://" ++ host ++ target) =
      parseWithAuthority scheme (schemeKind scheme) (pasted host.toList target.toList) := by
  obtain ⟨b, back, ht, hb⟩ := ht
  have hclean : clean (scheme ++ "://" ++ host ++ target).toList =
      scheme.toList ++ ':' :: '/' :: '/' :: (strip host.toList ++ clean target.toList) := by
    simp only [String.toList_append, ht]
    rcases hs with rfl | rfl
    · show clean ('h' :: ("ttp://".toList ++ host.toList) ++ b :: back) = _
      rw [clean_append (by decide) hb, ← List.cons_append, strip_append, List.append_assoc]
      rfl
    · show clean ('h' :: ("ttps://".toList ++ host.toList) ++ b :: back) = _
      rw [clean_append (by decide) hb, ← List.cons_append, strip_append, List.append_assoc]
      rfl
  obtain ⟨p, hp⟩ := hs.schemeKind
  unfold parse
  rw [hclean, hs.splitScheme]
  simp only [parseRest, hp]
  rfl

/-- What is left of a host behind the slashes at its front. -/
def core (host : List Char) : List Char := (strip host).dropWhile isSlash

/-- A host is plain if it is read as an authority and nothing else. -/
def IsPlain (host : List Char) : Prop := core host ≠ [] ∧ ∀ c ∈ core host, ends c = false

instance (host : List Char) : Decidable (IsPlain host) :=
  decidable_of_iff (core host ≠ [] ∧ (core host).all (!ends ·) = true) (by simp [IsPlain])

/-- Path and query of a target by itself. -/
def ownPathQuery (target : List Char) : String × Option String :=
  behind ((clean target).dropWhile (!ends ·))

theorem pasted_of_core {host : List Char} (h : core host ≠ []) (target : List Char) :
    pasted host target = core host ++ clean target := by
  unfold pasted
  rw [List.dropWhile_append, ← core, if_neg (by simpa using h)]

variable {scheme host target target' : String} {u : Url}

/-- **A plain host leaves path and query to the target.** -/
theorem pathQuery_of_isPlain (hs : IsWeb scheme) (hhost : IsPlain host.toList)
    (ht : IsFlush target) (h : parse (scheme ++ "://" ++ host ++ target) = .ok u) :
    pathQuery u = ownPathQuery target.toList := by
  obtain ⟨p, hp⟩ := hs.schemeKind
  rw [parse_pasted hs host ht, hp] at h
  rw [pathQuery_of_parse h, pasted_of_core hhost.1, ownPathQuery,
    List.dropWhile_append_of_pos fun c hc => by simp [hhost.2 c hc]]

/-- Of a host that goes on behind its authority, all of that is put before the target, whatever the
target is. -/
theorem parse_of_tail (hs : IsWeb scheme) {tail : List Char}
    (htail : (core host.toList).dropWhile (!ends ·) = tail) (hne : tail ≠ [])
    (ht : IsFlush target) (ht' : IsFlush target')
    (h : parse (scheme ++ "://" ++ host ++ target) = .ok u) :
    ∃ u', parse (scheme ++ "://" ++ host ++ target') = .ok u' ∧
      pathQuery u' = behind (tail ++ clean target'.toList) := by
  obtain ⟨p, hp⟩ := hs.schemeKind
  have hcore : core host.toList ≠ [] := by
    intro hnil
    rw [hnil] at htail
    exact hne htail.symm
  have hdrop (cs : List Char) : (core host.toList ++ cs).dropWhile (!ends ·) = tail ++ cs := by
    rw [List.dropWhile_append, htail, if_neg (by simpa using hne)]
  have htake (cs : List Char) : (core host.toList ++ cs).takeWhile (!ends ·) =
      (core host.toList).takeWhile (!ends ·) := by
    rw [List.takeWhile_append, if_neg]
    intro hlen
    have hself := (List.takeWhile_prefix (!ends ·)).eq_of_length hlen
    rw [List.takeWhile_eq_self_iff, ← List.dropWhile_eq_nil_iff, htail] at hself
    exact hne hself
  rw [parse_pasted hs host ht, hp, pasted_of_core hcore] at h
  rw [parse_pasted hs host ht', hp, pasted_of_core hcore]
  have hrest (cs : List Char) : (tail ++ cs).isEmpty = false := by simp [hne]
  rw [← hdrop]
  exact parseWithAuthority_congr h (by rw [htake, htake]) (by rw [hdrop, hdrop, hrest, hrest])

/-- Of a target behind nothing but slashes the first segment is read as the authority. -/
theorem parse_of_core_nil (hs : IsWeb scheme) (hhost : core host.toList = []) :
    ∃ u, parse (scheme ++ "://" ++ host ++ "/[::1]") = .ok u ∧ pathQuery u = ("/", none) := by
  have hpasted : pasted host.toList "/[::1]".toList = "[::1]".toList := by
    unfold pasted
    rw [List.dropWhile_append, ← core, hhost]
    decide
  rw [parse_pasted hs host ⟨'/', "[::1]".toList, rfl, by decide⟩, hpasted]
  rcases hs with rfl | rfl
  · exact ⟨_, rfl, rfl⟩
  · exact ⟨_, rfl, rfl⟩

/-! ## Paths behind a host -/

theorem behind_fst (cs : List Char) :
    (behind cs).1 = parsePath (.special 80) (cs.takeWhile (!endsPath ·)) := rfl

/-- A path that is read up to an asterisk is not the root. -/
theorem behind_asterisk {tail : List Char} {c : Char} (hc : ends c = true)
    (h : ∀ d ∈ c :: tail, endsPath d = false) : (behind (c :: tail ++ ['*'])).1 ≠ "/" := by
  have htake : (c :: tail ++ ['*']).takeWhile (!endsPath ·) = c :: tail ++ ['*'] := by
    rw [List.takeWhile_append_of_pos fun d hd => by simp [h d hd]]
    rfl
  have hslash : dropSlash true (c :: tail ++ ['*']) = tail ++ ['*'] := by
    have hs : isSlash c = true := by simpa [ends, h c List.mem_cons_self] using hc
    rcases (Bool.or_eq_true _ _).mp hs with hs | hs <;> rw [beq_iff_eq.mp hs] <;> rfl
  have htail : (tail ++ ['*']).getLast? = some '*' := by simp
  obtain ⟨s, hs, hlast⟩ := getLast?_segmentsOf htail
  have hpath : (behind (c :: tail ++ ['*'])).1 =
      String.ofList (pathText (segmentsOf true false (tail ++ ['*']))) := by
    rw [behind_fst, htake, ← hslash]
    rfl
  intro hroot
  have htext : pathText (segmentsOf true false (tail ++ ['*'])) = ['/'] := by
    simpa using congrArg String.toList (hpath.symm.trans hroot)
  have hend := getLast?_pathText hs hlast
  rw [htext] at hend
  cases hend

/-- Nothing behind a question mark or a number sign changes the path. -/
theorem behind_append {tail : List Char} (h : ∃ d ∈ tail, endsPath d = true) (cs : List Char) :
    (behind (tail ++ cs)).1 = (behind tail).1 := by
  rw [behind_fst, behind_fst, List.takeWhile_append, if_neg]
  intro hlen
  have hself := (List.takeWhile_prefix (!endsPath ·)).eq_of_length hlen
  obtain ⟨d, hd, hends⟩ := h
  have := List.takeWhile_eq_self_iff.mp hself d hd
  simp [hends] at this

end Testbed.Url
