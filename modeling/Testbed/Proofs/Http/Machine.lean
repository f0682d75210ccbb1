import Testbed.Http.Machine
import Testbed.Proofs.Http.Session

/-!
# Ports of servers

Servers are started on a machine and closed again, in any order and as often as one likes
(`Estate`).

**Theorem (`ports_apart`).** The servers that are open listen on different ports, and a connection
finds a server at these ports and at no others. So the port of a server that was closed can be
taken by another one (`start_on_free`), and closing the first again does not take it away.

The ports that are taken are the ports of the open servers (`Estate.Kept`), and each deed keeps them
so (`Estate.Kept.act`).
-/

namespace Testbed.Http

namespace Server

/-- What a call that goes on leaves alone. -/
theorem advance_frame (patience : Patience) (s : Server) (call : Call) :
    (s.advance patience call).1.port = s.port ∧
      (s.advance patience call).1.closing = s.closing := by
  obtain ⟨shared, es, hs, -⟩ := advance_spec patience s call
  rw [hs]
  exact ⟨rfl, rfl⟩

theorem drain_frame (s : Server) (calls : List Call) :
    (s.drain calls).1.port = s.port ∧ (s.drain calls).1.closing = s.closing := by
  induction calls generalizing s with
  | nil => exact ⟨rfl, rfl⟩
  | cons call rest ih =>
    obtain ⟨hport, hclosing⟩ := advance_frame .limited s (wake call)
    obtain ⟨hport', hclosing'⟩ := ih (s.advance .limited (wake call)).1
    exact ⟨hport'.trans hport, hclosing'.trans hclosing⟩

theorem closing_close (s : Server) (calls : List Call) : (s.close calls).1.closing = true := by
  unfold close
  split
  · assumption
  · exact (drain_frame s.beginClose calls).2

end Server

/-! ## Servers on one machine -/

/-- A machine and the servers that were started on it. -/
structure Estate where
  machine : Machine
  servers : List Server

/-- What is done with servers. -/
inductive Management where
  | start (handler : Handler) (secure : Bool) (shared : Shared) (asked offered : UInt16)
  /-- Closes a server by its number. -/
  | close (number : Nat) (waiting : List Call)

namespace Estate

variable {e : Estate} {handler : Handler} {secure : Bool} {shared : Shared}
  {asked offered : UInt16}

/-- The ports of the servers that are open. -/
def ports (servers : List Server) : List UInt16 :=
  (servers.filter fun s => !s.closing).map Server.port

def act (e : Estate) : Management → Estate
  | .start handler secure shared asked offered =>
    match e.machine.start handler secure shared asked offered with
    | .ok (s, m) => ⟨m, e.servers ++ [s]⟩
    | .error _ => e
  | .close number waiting =>
    match e.servers[number]? with
    | some s =>
      let (m, s, _) := e.machine.close s waiting
      ⟨m, e.servers.set number s⟩
    | none => e

/-- No two open servers have the same port, and their ports are those that are taken. -/
structure Kept (e : Estate) : Prop where
  nodup : e.machine.taken.Nodup
  taken : e.machine.taken.Perm (ports e.servers)

theorem ports_append (servers more : List Server) :
    ports (servers ++ more) = ports servers ++ ports more := by
  simp [ports]

theorem ports_cons (s : Server) (servers : List Server) :
    ports (s :: servers) = ports [s] ++ ports servers :=
  ports_append [s] servers

theorem Kept.start (h : e.Kept) : (e.act (.start handler secure shared asked offered)).Kept := by
  simp only [act, Machine.start, Machine.listen]
  generalize (if asked = 0 then offered else asked) = port
  by_cases hport : port ∈ e.machine.taken
  · simpa only [if_pos hport] using h
  · simp only [if_neg hport]
    refine ⟨List.nodup_cons.mpr ⟨hport, h.nodup⟩, ?_⟩
    rw [ports_append]
    exact (h.taken.cons port).trans (List.perm_append_singleton port _).symm

/-- A server that is closed gives its port back, if it was open. -/
theorem perm_ports_set {servers : List Server} {number : Nat} {s t : Server}
    (hs : servers[number]? = some s) (hclosed : t.closing = true) :
    (ports servers).Perm (ports [s] ++ ports (servers.set number t)) := by
  induction servers generalizing number with
  | nil => cases hs
  | cons first rest ih =>
    cases number with
    | zero =>
      cases hs
      have hgone : ports [t] = [] := by simp [ports, hclosed]
      rw [List.set_cons_zero, ports_cons s rest, ports_cons t rest, hgone, List.nil_append]
    | succ number =>
      have hrest := ih (by simpa using hs)
      rw [List.set_cons_succ, ports_cons first rest, ports_cons first (rest.set number t)]
      exact (hrest.append_left (ports [first])).trans (List.perm_append_comm_assoc _ _ _)

theorem Kept.close (h : e.Kept) (number : Nat) (waiting : List Call) :
    (e.act (.close number waiting)).Kept := by
  cases hs : e.servers[number]? with
  | none => simpa [act, hs] using h
  | some s =>
    have hperm := h.taken.trans (perm_ports_set hs (s.closing_close waiting))
    simp only [act, hs, Machine.close]
    cases hopen : s.closing with
    | true =>
      have hgone : ports [s] = [] := by simp [ports, hopen]
      rw [hgone, List.nil_append] at hperm
      exact ⟨h.nodup, hperm⟩
    | false =>
      have hport : ports [s] = [s.port] := by simp [ports, hopen]
      rw [hport] at hperm
      refine ⟨h.nodup.erase s.port, (hperm.erase s.port).trans ?_⟩
      rw [List.singleton_append, List.erase_cons_head]

theorem Kept.act (h : e.Kept) (m : Management) : (e.act m).Kept := by
  cases m with
  | start handler secure shared asked offered => exact h.start
  | close number waiting => exact h.close number waiting

/-- **The ports of open servers.** Whatever servers were started and closed on a machine, those that
are open have different ports, and a connection finds a server at exactly these. -/
theorem ports_apart (ms : List Management) :
    let e := ms.foldl act ⟨⟨[]⟩, []⟩
    (ports e.servers).Nodup ∧
      ∀ port, e.machine.accepts port = true ↔
        ∃ s ∈ e.servers, s.closing = false ∧ s.port = port := by
  intro e
  have hall (ms : List Management) {e : Estate} (h : e.Kept) : (ms.foldl Estate.act e).Kept := by
    induction ms generalizing e with
    | nil => exact h
    | cons m ms ih => exact ih (h.act m)
  have h : e.Kept := hall ms ⟨List.nodup_nil, .refl _⟩
  refine ⟨h.taken.nodup_iff.mp h.nodup, fun port => ?_⟩
  rw [Machine.accepts, List.contains_iff_mem, h.taken.mem_iff]
  simp [ports, and_assoc]

/-- A server that asks for a port that nobody listens on is given it. -/
theorem start_on_free (m : Machine) (hasked : asked ≠ 0) (hfree : m.accepts asked = false) :
    ∃ s m', m.start handler secure shared asked offered = .ok (s, m') ∧ s.port = asked ∧
      s.closing = false ∧ m'.accepts asked = true := by
  have hnot : asked ∉ m.taken := by simpa [Machine.accepts] using hfree
  refine ⟨(Server.create handler secure asked shared).start, ⟨asked :: m.taken⟩, ?_, rfl, rfl, ?_⟩
  · simp only [Machine.start, Machine.listen, if_neg hasked, if_neg hnot]
  · simp [Machine.accepts]

end Estate
end Testbed.Http
