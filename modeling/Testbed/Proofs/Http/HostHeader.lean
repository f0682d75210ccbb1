import Testbed.Http.Server
import Testbed.Proofs.Url.Port

/-!
# What the `Host` header decides

The URL of a request is pasted together from the text of its `Host` header and its target, so a
header can reach into the path and the query by which the request is routed.

**Theorem (`neutral_iff`).** A host is neutral if it is an authority and nothing else, or if no
target makes a URL with it (`IsNeutral`). Requests that differ in their `Host` headers only, and
whose hosts are neutral, have the same path and query and take the same routes: those of their
target. With any other host there is a target whose path is not that of the request.

The first part holds because a plain host leaves the text of the target as it is, and so does the
server's own address, which takes the place of hosts that make no URL. For the second part there are
three kinds of other hosts (`exists_other_path`): those that end the path themselves, those that put
segments before it, and those that are nothing but slashes.
-/

namespace Testbed.Http

/-! ## Targets -/

namespace Target

theorem isDelimited_pathOf {cs : List Char} (h : ∀ c ∈ cs.head?, endsAuthority c = true) :
    Url.IsDelimited (pathOf cs) := by
  cases cs with
  | nil => exact ⟨'/', [], rfl, .inl rfl⟩
  | cons c rest =>
    by_cases hc : c = '#'
    · refine ⟨'/', [], ?_, .inl rfl⟩
      simp [pathOf, hc]
    · refine ⟨c, rest.takeWhile (· != '#'), ?_, ?_⟩
      · simp [pathOf, hc]
      · simpa [endsAuthority, hc] using h c rfl

/-- The path of a target begins with a slash or a question mark, but for the asterisk. -/
theorem isDelimited_path {s : String} (h : s ≠ "*") : Url.IsDelimited (parse s).path := by
  unfold parse
  dsimp only
  split_ifs with hs
  · refine isDelimited_pathOf fun c hc => ?_
    rcases hs with hs | hs
    · rw [hs] at hc
      cases hc
      decide
    · exact absurd (String.toList_inj.mp hs) h
  · split
    · refine isDelimited_pathOf fun c hc => ?_
      have hends := List.head?_dropWhile_not (fun c => !endsAuthority c) ‹List Char›
      rw [hc] at hends
      simpa using hends
    · exact ⟨'/', [], by simp, .inl rfl⟩

/-- The path of a target does not begin with a blank. -/
theorem isFlush_path (s : String) : Url.IsFlush (parse s).path := by
  by_cases h : s = "*"
  · subst h
    exact ⟨'*', [], rfl, by decide⟩
  · exact (isDelimited_path h).isFlush

/-- Path and query of a target by itself. -/
def own (t : Target) : String × Option String := Url.ownPathQuery t.path.toList

end Target

/-! ## Hosts -/

/-- The URL that is made of a host and a target. -/
def urlOf? (scheme host target : String) : Option Url :=
  (Url.parse (scheme ++ "://" ++ host ++ (Target.parse target).path)).toOption

/-- A host is neutral if it is plain, or if no target makes a URL with it. -/
def IsNeutral (scheme host : String) : Prop :=
  Url.IsPlain host.toList ∨ ∀ target, urlOf? scheme host target = none

theorem urlOf?_eq_some_iff {scheme host target : String} {url : Url} :
    urlOf? scheme host target = some url ↔
      Url.parse (scheme ++ "://" ++ host ++ (Target.parse target).path) = .ok url := by
  unfold urlOf?
  cases Url.parse (scheme ++ "://" ++ host ++ (Target.parse target).path) <;>
    simp [Except.toOption]

theorem requestUrl?_eq (scheme : String) (host : Option String) (port : UInt16) (target : String) :
    requestUrl? scheme host port (Target.parse target).path =
      (host.bind fun host => urlOf? scheme host target).or
        (urlOf? scheme ("localhost:" ++ toString port.toNat) target) := rfl

theorem isPlain_localhost (port : UInt16) :
    Url.IsPlain ("localhost:" ++ toString port.toNat).toList := by
  rw [Url.toList_localhost]
  exact Url.isPlain_localhost port.toNat

theorem pathQuery_urlOf? {scheme host target : String} {url : Url} (hs : Url.IsWeb scheme)
    (hhost : IsNeutral scheme host) (hurl : urlOf? scheme host target = some url) :
    Url.pathQuery url = (Target.parse target).own := by
  rcases hhost with hplain | hnone
  · exact Url.pathQuery_of_isPlain hs hplain (Target.isFlush_path target)
      (urlOf?_eq_some_iff.mp hurl)
  · rw [hnone] at hurl
    cases hurl

/-- A URL that is made with neutral hosts has path and query of the target. -/
theorem pathQuery_requestUrl? {scheme : String} (hs : Url.IsWeb scheme) {host : Option String}
    {port : UInt16} {target : String} {url : Url} (hhost : ∀ h ∈ host, IsNeutral scheme h)
    (hurl : requestUrl? scheme host port (Target.parse target).path = some url) :
    Url.pathQuery url = (Target.parse target).own := by
  rw [requestUrl?_eq, Option.or_eq_some_iff] at hurl
  rcases hurl with hurl | ⟨-, hurl⟩
  · obtain ⟨h, hh, hurl⟩ := Option.bind_eq_some_iff.mp hurl
    exact pathQuery_urlOf? hs (hhost h hh) hurl
  · exact pathQuery_urlOf? hs (.inl (isPlain_localhost port)) hurl

/-- **Every other host shows in the path** of some target. -/
theorem exists_other_path {scheme host : String} (hs : Url.IsWeb scheme)
    (hhost : ¬IsNeutral scheme host) : ∃ target url, urlOf? scheme host target = some url ∧
      url.path ≠ (Target.parse target).own.1 := by
  rw [IsNeutral, not_or, not_forall] at hhost
  obtain ⟨hplain, target, hurl⟩ := hhost
  obtain ⟨u, hu⟩ := Option.ne_none_iff_exists'.mp hurl
  have hu := urlOf?_eq_some_iff.mp hu
  by_cases hcore : Url.core host.toList = []
  · obtain ⟨url, hparse, hpq⟩ := Url.parse_of_core_nil hs hcore
    refine ⟨"/[::1]", url, urlOf?_eq_some_iff.mpr hparse, ?_⟩
    rw [show url.path = "/" from congrArg Prod.fst hpq]
    decide +kernel
  · have hne : (Url.core host.toList).dropWhile (!Url.ends ·) ≠ [] := by
      intro hnil
      refine hplain ⟨hcore, fun c hc => ?_⟩
      simpa using List.dropWhile_eq_nil_iff.mp hnil c hc
    have hread (t : String) := Url.parse_of_tail hs rfl hne (Target.isFlush_path target)
      (Target.isFlush_path t) hu
    cases htail : (Url.core host.toList).dropWhile (!Url.ends ·) with
    | nil => exact absurd htail hne
    | cons c tail =>
      simp only [htail] at hread
      by_cases hends : ∃ d ∈ c :: tail, Url.endsPath d = true
      · -- The path ends within the host, so two targets have it in common.
        obtain ⟨x, hx, hpx⟩ := hread "/x"
        obtain ⟨y, hy, hpy⟩ := hread "/y"
        have hxy : x.path = y.path := by
          have hpath (cs : List Char) := Url.behind_append hends cs
          exact (congrArg Prod.fst hpx).trans
            ((hpath _).trans ((hpath _).symm.trans (congrArg Prod.fst hpy).symm))
        by_cases hpath : x.path = "/x"
        · refine ⟨"/y", y, urlOf?_eq_some_iff.mpr hy, ?_⟩
          rw [← hxy, hpath]
          decide +kernel
        · refine ⟨"/x", x, urlOf?_eq_some_iff.mpr hx, ?_⟩
          rw [show (Target.parse "/x").own.1 = "/x" by decide +kernel]
          exact hpath
      · -- The last segment of the path is that of the target, behind those of the host.
        obtain ⟨url, hparse, hpq⟩ := hread "*"
        refine ⟨"*", url, urlOf?_eq_some_iff.mpr hparse, ?_⟩
        have hc : Url.ends c = true := by
          have := List.head?_dropWhile_not (!Url.ends ·) (Url.core host.toList)
          rw [htail] at this
          simpa using this
        have hpath : url.path = (Url.behind (c :: tail ++ ['*'])).1 := congrArg Prod.fst hpq
        rw [hpath, show (Target.parse "*").own.1 = "/" by decide +kernel]
        exact Url.behind_asterisk hc fun d hd => by
          simpa using fun hpe => hends ⟨d, hd, hpe⟩

/-! ## Requests -/

/-- Whether a header is another one than `Host`. -/
def isOther (h : String × Bytes) : Bool := h.1.map Char.toLower != "host"

theorem headerValues_congr {headers headers' : List (String × Bytes)}
    (h : headers.filter isOther = headers'.filter isOther) {name : String} (hname : name ≠ "host") :
    Incoming.headerValues headers name = Incoming.headerValues headers' name := by
  have hfilter (l : List (String × Bytes)) :
      l.filter (fun h => h.1.map Char.toLower == name) =
        (l.filter isOther).filter fun h => h.1.map Char.toLower == name := by
    rw [List.filter_filter]
    refine List.filter_congr fun h _ => ?_
    by_cases hn : h.1.map Char.toLower = name
    · simp [isOther, hn, hname]
    · simp [hn]
  unfold Incoming.headerValues
  rw [hfilter headers, hfilter headers', h]

theorem bodyOf_congr {headers headers' : List (String × Bytes)}
    (h : headers.filter isOther = headers'.filter isOther) (raw : Bytes) :
    Incoming.bodyOf headers raw = Incoming.bodyOf headers' raw := by
  unfold Incoming.bodyOf
  rw [headerValues_congr h (by decide), headerValues_congr h (by decide)]

/-- A request has the method, body, and host of what came in, and a URL that was made with it. -/
theorem request?_eq_some {scheme : String} {port : UInt16} {i : Incoming} {r : Request}
    (h : i.request? scheme port = some r) : i.body = some r.body ∧
      r.method = i.method.map Char.toUpper ∧
      requestUrl? scheme i.host? port i.target.path = some r.uri := by
  obtain ⟨body, hbody, h⟩ := Option.bind_eq_some_iff.mp h
  obtain ⟨url, hurl, rfl⟩ := Option.map_eq_some_iff.mp h
  exact ⟨hbody, rfl, hurl⟩

theorem isWeb_scheme (s : Server) : Url.IsWeb s.scheme := by
  unfold Server.scheme
  split_ifs
  · exact .inr rfl
  · exact .inl rfl

theorem isOther_trim {headers headers' : List (String × Bytes)}
    (h : headers.filter isOther = headers'.filter isOther) :
    (headers.map fun (name, value) => (name, trimValue value)).filter isOther =
      (headers'.map fun (name, value) => (name, trimValue value)).filter isOther := by
  have hfilter (l : List (String × Bytes)) :
      (l.map fun (name, value) => (name, trimValue value)).filter isOther =
        (l.filter isOther).map fun (name, value) => (name, trimValue value) := List.filter_map
  rw [hfilter, hfilter, h]

/-- **What the `Host` header decides.** Requests that differ in their `Host` headers only have the
path and query of their target and take the same routes, if their hosts are neutral. A host is
neutral if and only if every URL that is made with it has path and query of the target. -/
theorem neutral_iff (s : Server) :
    (∀ method target raw headers headers', headers.filter isOther = headers'.filter isOther →
      let i := Incoming.make method target headers raw
      let j := Incoming.make method target headers' raw
      (∀ host ∈ i.host?, IsNeutral s.scheme host) → (∀ host ∈ j.host?, IsNeutral s.scheme host) →
      ∀ q r, i.request? s.scheme s.port = some q → j.request? s.scheme s.port = some r →
        Url.pathQuery q.uri = (Target.parse target).own ∧
        (q.path = r.path ∧ q.query = r.query) ∧ (q.method = r.method ∧ q.body = r.body) ∧
        ∀ routes : List (Route Handler),
          selectRoute q.path q.method routes = selectRoute r.path r.method routes) ∧
    ∀ host, IsNeutral s.scheme host ↔ ∀ target url,
      requestUrl? s.scheme (some host) s.port (Target.parse target).path = some url →
      Url.pathQuery url = (Target.parse target).own := by
  have hs := isWeb_scheme s
  refine ⟨?_, fun host => ⟨fun h target url hurl => ?_, fun h => ?_⟩⟩
  · intro method target raw headers headers' hothers i j hi hj q r hq hr
    obtain ⟨hqb, hqm, hqu⟩ := request?_eq_some hq
    obtain ⟨hrb, hrm, hru⟩ := request?_eq_some hr
    have hqown := pathQuery_requestUrl? hs hi hqu
    have hrown := pathQuery_requestUrl? hs hj hru
    obtain ⟨hpath, hquery⟩ := Prod.mk.inj (hqown.trans hrown.symm)
    have hpath : q.path = r.path := hpath
    have hmethod : q.method = r.method := hqm.trans hrm.symm
    have hbody : q.body = r.body := by
      have : i.body = j.body := bodyOf_congr (isOther_trim hothers) raw
      rw [hqb, hrb, Option.some_inj] at this
      exact this
    refine ⟨hqown, ⟨hpath, ?_⟩, ⟨hmethod, hbody⟩, fun routes => ?_⟩
    · unfold Request.query
      rw [hquery]
    · rw [hpath, hmethod]
  · refine pathQuery_requestUrl? hs ?_ hurl
    rintro _ ⟨⟩
    exact h
  · by_contra hneutral
    obtain ⟨target, url, hurl, hpath⟩ := exists_other_path hs hneutral
    refine hpath (congrArg Prod.fst (h target url ?_))
    rw [requestUrl?_eq, Option.bind_some, hurl, Option.some_or]

/-- Two addresses with ports, one header in lower case: the requests agree. -/
theorem addresses_agree :
    let s : Server := .create (.all []) false 80 .fresh
    let headers (name host : String) : List (String × Bytes) :=
      [("Accept", Utf8.encode "*/*"), (name, Utf8.encode host)]
    let i : Incoming := .make "GET" "/x?y" (headers "Host" "[::1]:81") []
    let j : Incoming := .make "GET" "/x?y" (headers "host" "[::2]") []
    ∃ q r, i.request? s.scheme s.port = some q ∧ j.request? s.scheme s.port = some r ∧
      Url.pathQuery q.uri = ("/x", some "y") ∧ q.path = r.path ∧ q.query = r.query := by
  intro s headers i j
  obtain ⟨q, hq⟩ : ∃ q, i.request? s.scheme s.port = some q :=
    Option.isSome_iff_exists.mp (by decide +kernel)
  obtain ⟨r, hr⟩ : ∃ r, j.request? s.scheme s.port = some r :=
    Option.isSome_iff_exists.mp (by decide +kernel)
  have hplain {o : Option String} {text : String} (ho : o = some text)
      (htext : Url.IsPlain text.toList) : ∀ host ∈ o, IsNeutral s.scheme host := by
    rintro host hhost
    rw [ho] at hhost
    cases hhost
    exact .inl htext
  have h := (neutral_iff s).1 "GET" "/x?y" [] (headers "Host" "[::1]:81") (headers "host" "[::2]")
    (by decide +kernel) (hplain (by decide +kernel : _ = some "[::1]:81") (by decide +kernel))
    (hplain (by decide +kernel : _ = some "[::2]") (by decide +kernel)) q r hq hr
  exact ⟨q, r, hq, hr, h.1.trans (by decide +kernel), h.2.1⟩

/-- The empty host makes an authority of the first segment. -/
example : ((Incoming.make "GET" "/[::1]/x" [("Host", [])] []).request? "http" 80).map Request.path =
    some "/x" := by
  decide +kernel

end Testbed.Http
