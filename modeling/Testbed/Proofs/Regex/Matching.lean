import Testbed.Regex.Basic

/-!
# What a program matches

A pattern matches the text between two places or does not (`Node.Matches`); nothing is said of which
match is preferred.

**Theorem (`ends_iff_matches`).** From the first instruction at a place of the text, the program of
a pattern can reach its end at another place if and only if the pattern matches the text between
them.

A program is put together from parts that can stand anywhere, and so is the proof. A part *does* a
relation between places when every way through it keeps to the relation and every related pair has
a way (`Does`). Copies of a part, forks over it and loops back to its start do what repetitions of
its relation are; the program of a pattern follows by induction on the pattern.
-/

namespace Testbed.Regex

/-! ## What a pattern matches -/

/-- A number of rounds of a relation between places. -/
def Rounds (R : Nat → Nat → Prop) : Nat → Nat → Nat → Prop
  | 0, i, j => j = i
  | n + 1, i, j => ∃ k, R i k ∧ Rounds R n k j

/-- Whether a pattern matches the text between two places. Where a repetition is bounded from both
sides, the lower bound counts if they contradict each other. -/
def Node.Matches (text : Array Char) : Node → Nat → Nat → Prop
  | empty, i, j => j = i
  | set s, i, j => j = i + 1 ∧ ∃ c, text[i]? = some c ∧ s.contains c = true
  | look l, i, j => j = i ∧ l.holds (Thread.before text i) text[i]? = true
  | capture _ body, i, j => body.Matches text i j
  | seq a b, i, j => ∃ k, a.Matches text i k ∧ b.Matches text k j
  | alt a b, i, j => a.Matches text i j ∨ b.Matches text i j
  | loop low high _ body, i, j =>
    ∃ n, low ≤ n ∧ (∀ h, high = some h → n ≤ max low h) ∧ Rounds (body.Matches text) n i j

variable {R S : Nat → Nat → Prop} {m n i j k l p low : Nat}

theorem rounds_add : Rounds R (m + n) i j ↔ ∃ k, Rounds R m i k ∧ Rounds R n k j := by
  induction m generalizing i with
  | zero => simp [Rounds]
  | succ m ih =>
    rw [Nat.succ_add]
    simp only [Rounds, ih]
    constructor
    · rintro ⟨k, hk, l, hl, hj⟩
      exact ⟨l, ⟨k, hk, hl⟩, hj⟩
    · rintro ⟨l, ⟨k, hk, hl⟩, hj⟩
      exact ⟨k, hk, l, hl, hj⟩

/-! ## Ways through a program -/

/-- The instruction and the place that a thread has come to. -/
def Thread.spot (t : Thread) : Nat × Nat := (t.next, t.place)

/-- Where an instruction leads to. -/
def Inst.ways (text : Array Char) (spot : Nat × Nat) (inst : Inst) : List (Nat × Nat) :=
  (Thread.follow text ⟨spot.1, spot.2, #[]⟩ inst).map Thread.spot

/-- What a thread has noted does not matter for where it goes. -/
theorem Thread.map_spot_follow (text : Array Char) (t : Thread) (inst : Inst) :
    (t.follow text inst).map spot = inst.ways text t.spot := by
  unfold Inst.ways
  cases inst with
  | set s => cases h : text[t.place]? <;> simp [follow, spot, h, apply_ite]
  | look l => simp only [follow, goTo, apply_ite (List.map spot)]; rfl
  | save slot => rfl
  | fork span greedy => cases greedy <;> rfl
  | again back greedy => cases greedy <;> rfl
  | jump span => rfl

/-- The ways from a spot to the end of a program, by how many steps they take and where in the text
they end. -/
inductive Ends (code : List Inst) (text : Array Char) : Nat → Nat × Nat → Nat → Prop where
  | here {p i : Nat} (h : code[p]? = none) : Ends code text 0 (p, i) i
  | step {spot next : Nat × Nat} {inst : Inst} {n k : Nat} (h : code[spot.1]? = some inst)
      (hnext : next ∈ inst.ways text spot) (ends : Ends code text n next k) :
      Ends code text (n + 1) spot k

variable {code part more : List Inst} {text : Array Char} {inst : Inst}

/-- A way on from an instruction takes one of its ways. -/
theorem Ends.next (h : Ends code text n (p, i) k) (hinst : code[p]? = some inst) :
    ∃ m next, n = m + 1 ∧ next ∈ inst.ways text (p, i) ∧ Ends code text m next k := by
  cases h with
  | here h =>
    rw [h] at hinst
    cases hinst
  | @step _ next inst' n _ h hnext ends =>
    obtain rfl : inst' = inst := Option.some.inj (h.symm.trans hinst)
    exact ⟨n, next, rfl, hnext, ends⟩

/-- A way whose instruction has one way on. -/
theorem Ends.only (h : Ends code text n (p, i) k) (hinst : code[p]? = some inst)
    {next : Nat × Nat} (hways : inst.ways text (p, i) = [next]) :
    ∃ m, n = m + 1 ∧ Ends code text m next k := by
  obtain ⟨m, next', rfl, hnext, ends⟩ := h.next hinst
  rw [hways, List.mem_singleton] at hnext
  exact ⟨m, rfl, hnext ▸ ends⟩

/-- Whether a part stands at an instruction of a program. -/
def Stands (code : List Inst) (p : Nat) (part : List Inst) : Prop := part <+: code.drop p

theorem stands_append :
    Stands code p (part ++ more) ↔ Stands code p part ∧ Stands code (p + part.length) more := by
  unfold Stands
  constructor
  · rintro ⟨rest, h⟩
    refine ⟨⟨more ++ rest, by rw [← h, List.append_assoc]⟩, rest, ?_⟩
    rw [← List.drop_drop, ← h, List.append_assoc, List.drop_left]
  · rintro ⟨⟨rest, h⟩, hmore⟩
    rw [← List.drop_drop, ← h, List.drop_left] at hmore
    rw [← h]
    exact (List.prefix_append_right_inj part).mpr hmore

theorem stands_cons :
    Stands code p (inst :: part) ↔ code[p]? = some inst ∧ Stands code (p + 1) part := by
  rw [← List.singleton_append, stands_append]
  refine and_congr_left fun _ => ?_
  unfold Stands
  rw [← List.head?_drop]
  cases code.drop p with
  | nil => simp
  | cons inst' rest => simp [eq_comm]

/-! ## What parts of a program do -/

/-- A part takes places to related places, wherever it stands in a program. -/
structure Does (text : Array Char) (part : List Inst) (R : Nat → Nat → Prop) : Prop where
  sound : ∀ {code p n i k}, Stands code p part → Ends code text n (p, i) k →
    ∃ j m, m ≤ n ∧ R i j ∧ Ends code text m (p + part.length, j) k
  complete : ∀ {code p m i j k}, Stands code p part → R i j →
    Ends code text m (p + part.length, j) k → ∃ n, Ends code text n (p, i) k

theorem does_nil (text : Array Char) : Does text [] fun i j => j = i where
  sound _ ends := ⟨_, _, Nat.le_refl _, rfl, ends⟩
  complete _ h ends := ⟨_, h ▸ ends⟩

/-- One instruction. -/
theorem does_singleton
    (h : ∀ p i next, next ∈ inst.ways text (p, i) ↔ ∃ j, R i j ∧ next = (p + 1, j)) :
    Does text [inst] R where
  sound hs ends := by
    obtain ⟨m, next, rfl, hnext, ends⟩ := ends.next (stands_cons.mp hs).1
    obtain ⟨j, hj, rfl⟩ := (h _ _ _).mp hnext
    exact ⟨j, m, Nat.le_succ m, hj, ends⟩
  complete hs hj ends := ⟨_, .step (stands_cons.mp hs).1 ((h _ _ _).mpr ⟨_, hj, rfl⟩) ends⟩

theorem Does.append (h : Does text part R) (h' : Does text more S) :
    Does text (part ++ more) fun i j => ∃ k, R i k ∧ S k j where
  sound hs ends := by
    obtain ⟨hpart, hmore⟩ := stands_append.mp hs
    obtain ⟨j, m, hm, hj, ends⟩ := h.sound hpart ends
    obtain ⟨k, l, hl, hk, ends⟩ := h'.sound hmore ends
    rw [Nat.add_assoc, ← List.length_append] at ends
    exact ⟨k, l, Nat.le_trans hl hm, ⟨j, hj, hk⟩, ends⟩
  complete hs hij ends := by
    obtain ⟨hpart, hmore⟩ := stands_append.mp hs
    obtain ⟨k, hk, hj⟩ := hij
    rw [List.length_append, ← Nat.add_assoc] at ends
    obtain ⟨m, ends⟩ := h'.complete hmore hj ends
    exact h.complete hpart hk ends

theorem Does.congr (h : Does text part R) (hRS : ∀ i j, R i j ↔ S i j) : Does text part S := by
  have : R = S := by
    funext i j
    exact propext (hRS i j)
  exact this ▸ h

/-- Copies of a part. -/
theorem Does.copies (h : Does text part R) (n : Nat) :
    Does text (Node.copies n part) (Rounds R n) := by
  induction n with
  | zero => exact does_nil text
  | succ n ih => exact h.append ih

theorem mem_ways_fork {span : Nat} {greedy : Bool} {next : Nat × Nat} :
    next ∈ (Inst.fork span greedy).ways text (p, i) ↔
      next = (p + 1, i) ∨ next = (p + 1 + span, i) := by
  cases greedy <;> simp [Inst.ways, Thread.follow, Thread.spot, Thread.goTo, or_comm]

theorem mem_ways_again {back : Nat} {greedy : Bool} {next : Nat × Nat} :
    next ∈ (Inst.again back greedy).ways text (p, i) ↔
      next = (p - back, i) ∨ next = (p + 1, i) := by
  cases greedy <;> simp [Inst.ways, Thread.follow, Thread.spot, Thread.goTo, or_comm]

/-- A fork over a part. -/
theorem Does.fork (h : Does text part R) (greedy : Bool) :
    Does text (.fork part.length greedy :: part) fun i j => j = i ∨ R i j where
  sound hs ends := by
    obtain ⟨hfork, hpart⟩ := stands_cons.mp hs
    obtain ⟨m, next, rfl, hnext, ends⟩ := ends.next hfork
    rw [List.length_cons, Nat.add_comm part.length, ← Nat.add_assoc]
    obtain rfl | rfl := mem_ways_fork.mp hnext
    · obtain ⟨j, l, hl, hj, ends⟩ := h.sound hpart ends
      exact ⟨j, l, Nat.le_succ_of_le hl, .inr hj, ends⟩
    · exact ⟨_, m, Nat.le_succ m, .inl rfl, ends⟩
  complete hs hij ends := by
    obtain ⟨hfork, hpart⟩ := stands_cons.mp hs
    rw [List.length_cons, Nat.add_comm part.length, ← Nat.add_assoc] at ends
    obtain rfl | hij := hij
    · exact ⟨_, .step hfork (mem_ways_fork.mpr (.inr rfl)) ends⟩
    · obtain ⟨n, ends⟩ := h.complete hpart hij ends
      exact ⟨_, .step hfork (mem_ways_fork.mpr (.inl rfl)) ends⟩

/-- A part that may be repeated. -/
theorem Does.again (h : Does text part R) (greedy : Bool) :
    Does text (part ++ [.again part.length greedy]) fun i j => ∃ n, Rounds R (n + 1) i j where
  sound {code p n i k} hs ends := by
    obtain ⟨hpart, hagain⟩ := stands_append.mp hs
    have hagain := (stands_cons.mp hagain).1
    rw [List.length_append, List.length_singleton, ← Nat.add_assoc]
    -- Every round takes a step, so that the ways get shorter.
    induction n using Nat.strongRecOn generalizing i with
    | ind n ih =>
      obtain ⟨j, m, hm, hj, ends⟩ := h.sound hpart ends
      obtain ⟨m, next, rfl, hnext, ends⟩ := ends.next hagain
      obtain rfl | rfl := mem_ways_again.mp hnext
      · rw [Nat.add_sub_cancel] at ends
        obtain ⟨j', l, hl, ⟨r, hr⟩, ends⟩ := ih m hm ends
        exact ⟨j', l, by omega, ⟨r + 1, j, hj, hr⟩, ends⟩
      · exact ⟨j, m, by omega, ⟨0, j, hj, rfl⟩, ends⟩
  complete {code p m i j k} hs hij ends := by
    obtain ⟨hpart, hagain⟩ := stands_append.mp hs
    have hagain := (stands_cons.mp hagain).1
    rw [List.length_append, List.length_singleton, ← Nat.add_assoc] at ends
    obtain ⟨n, hn⟩ := hij
    induction n generalizing i with
    | zero =>
      obtain ⟨k, hk, rfl⟩ := hn
      exact h.complete hpart hk (.step hagain (mem_ways_again.mpr (.inr rfl)) ends)
    | succ n ih =>
      obtain ⟨k, hk, hn⟩ := hn
      obtain ⟨m, ends⟩ := ih hn
      rw [← Nat.add_sub_cancel (n := p) (m := part.length)] at ends
      exact h.complete hpart hk (.step hagain (mem_ways_again.mpr (.inl rfl)) ends)

theorem length_upTo (greedy : Bool) (part : List Inst) (n : Nat) :
    (Node.upTo greedy part n).length = n * part.length + n := by
  induction n with
  | zero => simp [Node.upTo]
  | succ n ih =>
    rw [Node.upTo, List.length_cons, List.length_append, ih, Nat.succ_mul]
    omega

/-- A part up to a number of times. -/
theorem Does.upTo (h : Does text part R) (greedy : Bool) (n : Nat) :
    Does text (Node.upTo greedy part n) fun i j => ∃ m, m ≤ n ∧ Rounds R m i j := by
  induction n with
  | zero =>
    refine (does_nil text).congr fun i j => ⟨fun hij => ⟨0, Nat.le_refl 0, hij⟩, ?_⟩
    rintro ⟨m, hm, hij⟩
    obtain rfl : m = 0 := by omega
    exact hij
  | succ n ih =>
    have hlength : (n + 1) * part.length + n = (part ++ Node.upTo greedy part n).length := by
      rw [List.length_append, length_upTo, Nat.succ_mul]
      omega
    rw [Node.upTo, hlength]
    refine ((h.append ih).fork greedy).congr fun i j => ?_
    constructor
    · rintro (rfl | ⟨k, hk, m, hm, hj⟩)
      · exact ⟨0, Nat.zero_le _, rfl⟩
      · exact ⟨m + 1, Nat.succ_le_succ hm, k, hk, hj⟩
    · rintro ⟨m | m, hm, hj⟩
      · exact .inl hj
      · obtain ⟨k, hk, hj⟩ := hj
        exact .inr ⟨k, hk, m, Nat.le_of_succ_le_succ hm, hj⟩

/-- A part at least a number of times. -/
theorem Does.atLeast (h : Does text part R) (greedy : Bool) (low : Nat) :
    Does text (if low = 0
      then .fork (part.length + 1) greedy :: (part ++ [.again part.length greedy])
      else Node.copies low part ++ [.again part.length greedy])
      fun i j => ∃ n, low ≤ n ∧ Rounds R n i j := by
  cases low with
  | zero =>
    have hlength : part.length + 1 = (part ++ [Inst.again part.length greedy]).length := by simp
    rw [if_pos rfl, hlength]
    refine ((h.again greedy).fork greedy).congr fun i j => ?_
    constructor
    · rintro (rfl | ⟨n, hn⟩)
      · exact ⟨0, Nat.zero_le 0, rfl⟩
      · exact ⟨n + 1, Nat.zero_le _, hn⟩
    · rintro ⟨n | n, -, hn⟩
      · exact .inl hn
      · exact .inr ⟨n, hn⟩
  | succ low =>
    have hcopies : Node.copies (low + 1) part = Node.copies low part ++ part := by
      simp [Node.copies, List.replicate_succ']
    rw [if_neg (Nat.succ_ne_zero low), hcopies, List.append_assoc]
    refine ((h.copies low).append (h.again greedy)).congr fun i j => ?_
    constructor
    · rintro ⟨k, hk, n, hn⟩
      exact ⟨low + (n + 1), by omega, rounds_add.mpr ⟨k, hk, hn⟩⟩
    · rintro ⟨n, hn, hj⟩
      obtain ⟨m, rfl⟩ : ∃ m, n = low + (m + 1) := ⟨n - low - 1, by omega⟩
      obtain ⟨k, hk, hj⟩ := rounds_add.mp hj
      exact ⟨k, hk, m, hj⟩

theorem length_alternative (part more : List Inst) (p : Nat) :
    p + (Inst.fork (part.length + 1) true :: (part ++ .jump more.length :: more)).length =
      p + 1 + part.length + 1 + more.length := by
  simp only [List.length_cons, List.length_append]
  omega

/-- One part or another. -/
theorem Does.alternative (h : Does text part R) (h' : Does text more S) :
    Does text (.fork (part.length + 1) true :: (part ++ .jump more.length :: more))
      fun i j => R i j ∨ S i j where
  sound {code p n i k} hs ends := by
    obtain ⟨hfork, hs⟩ := stands_cons.mp hs
    obtain ⟨hpart, hs⟩ := stands_append.mp hs
    obtain ⟨hjump, hmore⟩ := stands_cons.mp hs
    rw [length_alternative]
    obtain ⟨m, next, rfl, hnext, ends⟩ := ends.next hfork
    obtain rfl | rfl := mem_ways_fork.mp hnext
    · obtain ⟨j, l, hl, hj, ends⟩ := h.sound hpart ends
      obtain ⟨l, rfl, ends'⟩ := ends.only hjump rfl
      exact ⟨j, l, by omega, .inl hj, ends'⟩
    · obtain ⟨j, l, hl, hj, ends⟩ := h'.sound hmore ends
      exact ⟨j, l, Nat.le_succ_of_le hl, .inr hj, ends⟩
  complete {code p m i j k} hs hij ends := by
    obtain ⟨hfork, hs⟩ := stands_cons.mp hs
    obtain ⟨hpart, hs⟩ := stands_append.mp hs
    obtain ⟨hjump, hmore⟩ := stands_cons.mp hs
    rw [length_alternative] at ends
    obtain hij | hij := hij
    · obtain ⟨n, ends⟩ := h.complete hpart hij (.step hjump (List.mem_singleton.mpr rfl) ends)
      exact ⟨_, .step hfork (mem_ways_fork.mpr (.inl rfl)) ends⟩
    · obtain ⟨n, ends⟩ := h'.complete hmore hij ends
      exact ⟨_, .step hfork (mem_ways_fork.mpr (.inr rfl)) ends⟩

/-! ## The program of a pattern -/

theorem does_save (text : Array Char) (slot : Nat) : Does text [.save slot] fun i j => j = i :=
  does_singleton fun p i next => by simp [Inst.ways, Thread.follow, Thread.spot]

theorem does_set (text : Array Char) (s : CharSet) :
    Does text [.set s] ((Node.set s).Matches text) := by
  refine does_singleton fun p i next => ?_
  cases h : text[i]? with
  | none => simp [Inst.ways, Thread.follow, Node.Matches, h]
  | some c =>
    cases hc : s.contains c <;>
      simp [Inst.ways, Thread.follow, Thread.spot, Node.Matches, h, hc]

theorem does_look (text : Array Char) (l : Look) :
    Does text [.look l] ((Node.look l).Matches text) := by
  refine does_singleton fun p i next => ?_
  cases h : l.holds (Thread.before text i) text[i]? <;>
    simp [Inst.ways, Thread.follow, Thread.spot, Thread.goTo, Node.Matches, h]

/-- **The program of a pattern** does what the pattern matches. -/
theorem does_code (text : Array Char) (node : Node) : Does text node.code (node.Matches text) := by
  induction node with
  | empty => exact does_nil text
  | set s => exact does_set text s
  | look l => exact does_look text l
  | capture index body ih =>
    refine ((does_save text (2 * index)).append (ih.append (does_save text (2 * index + 1)))).congr
      fun i j => ?_
    simp [Node.Matches]
  | seq a b iha ihb => exact iha.append ihb
  | alt a b iha ihb => exact iha.alternative ihb
  | loop low high greedy body ih =>
    cases high with
    | none => exact (ih.atLeast greedy low).congr fun i j => by simp [Node.Matches]
    | some high =>
      refine ((ih.copies low).append (ih.upTo greedy (high - low))).congr fun i j => ?_
      constructor
      · rintro ⟨k, hk, n, hn, hj⟩
        refine ⟨low + n, Nat.le_add_right low n, ?_, rounds_add.mpr ⟨k, hk, hj⟩⟩
        rintro _ ⟨⟩
        omega
      · rintro ⟨n, hlow, hhigh, hj⟩
        have hn : n ≤ max low high := hhigh high rfl
        obtain ⟨m, rfl⟩ := Nat.exists_eq_add_of_le hlow
        obtain ⟨k, hk, hj⟩ := rounds_add.mp hj
        exact ⟨k, hk, m, by omega, hj⟩

/-- **Ways through a program.** From its first instruction, at a place, the program of a pattern
reaches its end at the places up to which the pattern matches. -/
theorem ends_iff_matches (text : Array Char) (node : Node) (i j : Nat) :
    (∃ n, Ends node.code text n (0, i) j) ↔ node.Matches text i j := by
  have hs : Stands node.code 0 node.code := by simp [Stands]
  have hend : node.code[0 + node.code.length]? = none := by simp
  constructor
  · rintro ⟨n, ends⟩
    obtain ⟨k, m, -, hk, ends⟩ := (does_code text node).sound hs ends
    cases ends with
    | here => exact hk
    | step h => simp at h
  · intro h
    exact (does_code text node).complete hs h (.here hend)

end Testbed.Regex
