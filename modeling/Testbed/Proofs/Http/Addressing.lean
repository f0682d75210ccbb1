import Testbed.Proofs.Http.HostHeader

/-!
# Requests that have no URL

The URL of a request is made with the host that the request names, and with the server's own address
when that host makes none. The own address is a name and a port, behind which the target is pasted.

**Theorem (`refused_iff_asterisk`).** Every target that begins with a slash or a question mark has a
URL, whatever the host. The asterisk, of all targets the only other one, has a URL only if the host
makes one with it, since the own address never does; nor does any plain host that names a port. So a
request whose body can be read is recorded, logged and given to the handler, unless it is for the
asterisk and names no such host: then it is refused, and leaves the server as it was.
-/

namespace Testbed.Http

variable {scheme host path : String}

/-! ## URLs -/

theorem requestUrl?_of_isDelimited (hs : Url.IsWeb scheme) (host : Option String) (port : UInt16)
    (hpath : Url.IsDelimited path) : ∃ url, requestUrl? scheme host port path = some url := by
  have hport : port.toNat ≤ 65535 := Nat.le_of_lt_succ port.toNat_lt
  obtain ⟨url, hurl⟩ := Url.parse_localhost hs hport hpath
  simp only [requestUrl?, hurl]
  cases host.bind _ with
  | none => exact ⟨url, rfl⟩
  | some own => exact ⟨own, rfl⟩

theorem urlOf?_asterisk (hs : Url.IsWeb scheme) (hhost : Url.IsPlain host.toList)
    (hport : Url.NamesPort host.toList) : urlOf? scheme host "*" = none := by
  obtain ⟨e, he⟩ := Url.parse_asterisk hs hhost hport
  have hpath : (Target.parse "*").path = "*" := rfl
  rw [urlOf?, hpath, he]
  rfl

/-- The asterisk has no URL but the one that the host of the request makes. -/
theorem requestUrl?_asterisk (hs : Url.IsWeb scheme) (host : Option String) (port : UInt16) :
    requestUrl? scheme host port "*" = host.bind fun host => urlOf? scheme host "*" := by
  have hown : urlOf? scheme ("localhost:" ++ toString port.toNat) "*" = none := by
    refine urlOf?_asterisk hs (isPlain_localhost port) ?_
    rw [Url.toList_localhost]
    exact Url.namesPort_localhost port.toNat
  have hurl := requestUrl?_eq scheme host port "*"
  rw [hown, Option.or_none] at hurl
  exact hurl

/-! ## Requests -/

namespace Server

theorem dispatch_of_refused {s : Server} {i : Incoming} (h : i.request? s.scheme s.port = none) :
    s.dispatch i = (s, some refusal) := by
  simp only [dispatch, accept, h]

/-- A request whose body can be read has a URL, or none of the asterisk. -/
theorem request?_eq_none_iff (s : Server) {method target : String} {headers : List (String × Bytes)}
    {raw body : Bytes} (hbody : (Incoming.make method target headers raw).body = some body) :
    (Incoming.make method target headers raw).request? s.scheme s.port = none ↔
      target = "*" ∧ ∀ host ∈ (Incoming.make method target headers raw).host?,
        urlOf? s.scheme host "*" = none := by
  have hs := isWeb_scheme s
  have hurl : (Incoming.make method target headers raw).request? s.scheme s.port = none ↔
      requestUrl? s.scheme (Incoming.make method target headers raw).host? s.port
        (Target.parse target).path = none := by
    rw [Incoming.request?, hbody, Option.bind_some, Option.map_eq_none_iff]
    rfl
  rw [hurl]
  by_cases htarget : target = "*"
  · subst htarget
    have hpath : (Target.parse "*").path = "*" := rfl
    rw [hpath, requestUrl?_asterisk hs, Option.bind_eq_none_iff]
    exact ⟨fun h => ⟨rfl, h⟩, fun h => h.2⟩
  · obtain ⟨url, hsome⟩ := requestUrl?_of_isDelimited hs
      (Incoming.make method target headers raw).host? s.port (Target.isDelimited_path htarget)
    rw [hsome]
    exact ⟨fun h => absurd h (Option.some_ne_none url), fun h => absurd h.1 htarget⟩

/-- **Which requests are refused.** Take any server.

1. With every target that begins with a slash or a question mark there is a URL, whatever the host.
2. With the asterisk there is the URL that the host makes with it, if it makes one; the server's own
   address takes no host's place.
3. No plain host that names a port makes a URL with the asterisk.
4. A request whose body can be read is refused if it is for the asterisk and no host of it makes a
   URL; nothing is recorded or logged, and no handler runs.
5. Any other request whose body can be read is recorded and logged, and the handler of the server
   starts on its exchange. -/
theorem refused_iff_asterisk (s : Server) :
    (∀ host path, Url.IsDelimited path →
      ∃ url, requestUrl? s.scheme host s.port path = some url) ∧
    (∀ host, requestUrl? s.scheme host s.port "*" = host.bind fun host =>
      urlOf? s.scheme host "*") ∧
    (∀ host : String, Url.IsPlain host.toList → Url.NamesPort host.toList →
      urlOf? s.scheme host "*" = none) ∧
    ∀ method target headers raw body, let i := Incoming.make method target headers raw
      i.body = some body →
        (target = "*" ∧ (∀ host ∈ i.host?, urlOf? s.scheme host "*" = none) →
          s.dispatch i = (s, some refusal)) ∧
        (¬(target = "*" ∧ ∀ host ∈ i.host?, urlOf? s.scheme host "*" = none) →
          ∃ request, i.request? s.scheme s.port = some request ∧
            s.accept i = ({ s with
              recorder := s.recorder.record request
              log := s.log ++ [.received s.port request.method request.path s.now] },
              some ⟨.start s.handler (.start request s.closing), false⟩)) := by
  have hs := isWeb_scheme s
  refine ⟨fun host path => requestUrl?_of_isDelimited hs host s.port,
    fun host => requestUrl?_asterisk hs host s.port, fun host => urlOf?_asterisk hs, ?_⟩
  intro method target headers raw body i hbody
  have hnone := request?_eq_none_iff s hbody
  constructor
  · intro h
    exact dispatch_of_refused (hnone.mpr h)
  · intro h
    obtain ⟨request, hrequest⟩ := Option.ne_none_iff_exists'.mp (mt hnone.mp h)
    refine ⟨request, hrequest, ?_⟩
    simp only [accept, i, hrequest]
    rfl

/-- A request for the asterisk is refused without a host, and also with the host that a client names
which has connected to the server; a request for the root is recorded. -/
theorem asterisk_refused :
    let s : Server := .create (.script (.just (.setStatus 200))) false 8080 .fresh
    let own : List (String × Bytes) := [("Host", Utf8.encode "localhost:8080")]
    s.dispatch (.make "OPTIONS" "*" [] []) = (s, some refusal) ∧
      s.dispatch (.make "OPTIONS" "*" own []) = (s, some refusal) ∧
      ∃ request, (s.accept (.make "OPTIONS" "/" own [])).1.recorder.queue = [request] ∧
        (s.accept (.make "OPTIONS" "/" own [])).1.log =
          [.received 8080 "OPTIONS" request.path 0] := by
  intro s own
  obtain ⟨-, -, hport, hall⟩ := refused_iff_asterisk s
  refine ⟨?_, ?_, ?_⟩
  · refine (hall "OPTIONS" "*" [] [] [] rfl).1 ⟨rfl, fun host hhost => ?_⟩
    cases hhost
  · refine (hall "OPTIONS" "*" own [] [] (by decide +kernel)).1 ⟨rfl, fun host hhost => ?_⟩
    have hown : (Incoming.make "OPTIONS" "*" own []).host? = some "localhost:8080" := by
      decide +kernel
    rw [hown] at hhost
    cases hhost
    exact hport "localhost:8080" (by decide +kernel) (by decide +kernel)
  · obtain ⟨request, hrequest, haccept⟩ := (hall "OPTIONS" "/" own [] [] (by decide +kernel)).2
      fun h => absurd h.1 (by decide)
    obtain ⟨-, hmethod, -⟩ := request?_eq_some hrequest
    have hoptions : request.method = "OPTIONS" := hmethod.trans (by decide +kernel)
    rw [haccept, ← hoptions]
    exact ⟨request, rfl, rfl⟩

end Server

end Testbed.Http
