import Mathlib.Algebra.Ring.Nat
import Mathlib.Tactic.SplitIfs
import Mathlib.Tactic.Tauto
import Testbed.Http.EventStream
import Testbed.Http.EventStream.Reader

/-!
# What is read of an event

An event is written in lines, and a client reads lines. The writer begins a new `data` line only
behind a line feed, while the reader ends a line at a carriage return as well. So a carriage return
without a line feed behind it (`LoneReturn`) begins a line that has no field name in front (`Piece`).

**Theorem (`read_eventText`).** An event without a lone carriage return is read back, each line
break of its data as a line feed.

**Theorem (`read_eventText_of_loneReturn`).** Of an event with one, an event with less data is read
first. What is in a line without a field name is lost, or else the line is blank and ends the event
early; in the end of the data the carriage return joins the line feed that is written behind it.
Either way less is read than was written (`sum_gain_le`).
-/

namespace Testbed.Http.EventStream

variable {b : Block} {begun rest tail : List Char} {c : Char}

/-! ## Line breaks -/

/-- A text with each of its line breaks as a line feed. -/
def unified : List Char → List Char
  | [] => []
  | '\r' :: '\n' :: rest => '\n' :: unified rest
  | c :: rest => (if c = '\r' then '\n' else c) :: unified rest

theorem unified_cons (h : ∀ rest', c = '\r' → rest = '\n' :: rest' → False) :
    unified (c :: rest) = (if c = '\r' then '\n' else c) :: unified rest := by
  rw [unified]
  exact h

/-- Somewhere in a text there is a carriage return without a line feed behind it. -/
def LoneReturn (text : List Char) : Prop :=
  ∃ before after, text = before ++ '\r' :: after ∧ after.head? ≠ some '\n'

theorem not_loneReturn_nil : ¬LoneReturn [] := by
  rintro ⟨before, after, h, -⟩
  cases before <;> cases h

theorem loneReturn_cons :
    LoneReturn (c :: rest) ↔ (c = '\r' ∧ rest.head? ≠ some '\n') ∨ LoneReturn rest := by
  constructor
  · rintro ⟨_ | ⟨d, before⟩, after, h, hafter⟩
    · obtain ⟨rfl, rfl⟩ := List.cons_eq_cons.mp h
      exact .inl ⟨rfl, hafter⟩
    · obtain ⟨rfl, rfl⟩ := List.cons_eq_cons.mp h
      exact .inr ⟨before, after, rfl, hafter⟩
  · rintro (⟨rfl, h⟩ | ⟨before, after, rfl, hafter⟩)
    · exact ⟨[], rest, rfl, h⟩
    · exact ⟨c :: before, after, rfl, hafter⟩

/-- A text in one line. -/
def OneLine (text : List Char) : Prop := '\n' ∉ text ∧ '\r' ∉ text

/-! ## Reading lines -/

theorem readLines_crlf :
    readLines begun ('\r' :: '\n' :: rest) = begun.reverse :: readLines [] rest := by
  rw [readLines]

theorem readLines_lf : readLines begun ('\n' :: rest) = begun.reverse :: readLines [] rest := by
  rw [readLines] <;> simp

theorem readLines_cr (h : rest.head? ≠ some '\n') :
    readLines begun ('\r' :: rest) = begun.reverse :: readLines [] rest := by
  cases rest with
  | nil => simp [readLines]
  | cons d rest =>
    rw [readLines]
    · rfl
    · rintro rest' - hrest
      exact h (congrArg List.head? hrest)

theorem readLines_char (hn : c ≠ '\n') (hr : c ≠ '\r') :
    readLines begun (c :: rest) = readLines (c :: begun) rest := by
  rw [readLines]
  · simp [hn, hr]
  · exact fun _ h => absurd h hr

/-- Characters that end no line are added to the one that is begun. -/
theorem readLines_append {text : List Char} (h : OneLine text) :
    readLines begun (text ++ rest) = readLines (text.reverse ++ begun) rest := by
  induction text generalizing begun with
  | nil => rfl
  | cons c text ih =>
    obtain ⟨hn, hr⟩ := h
    rw [List.mem_cons, not_or] at hn hr
    rw [List.cons_append, readLines_char (Ne.symm hn.1) (Ne.symm hr.1), ih ⟨hn.2, hr.2⟩]
    simp

/-- A line of text is read as it is. -/
theorem readLines_line {text : List Char} (h : OneLine text) :
    readLines [] (text ++ '\n' :: rest) = text :: readLines [] rest := by
  rw [readLines_append h, readLines_lf]
  simp

/-! ## Reading blocks -/

/-- How a line of data is marked. -/
def tag : List Char := ['d', 'a', 't', 'a', ':', ' ']

/-- How the line with the name of an event is marked. -/
def nameTag : List Char := ['e', 'v', 'e', 'n', 't', ':', ' ']

theorem add_tag (value : List Char) :
    b.add (tag ++ value) = { b with data := b.data ++ [value] } := by
  simp [Block.add, readField, tag]

theorem add_name (name : List Char) : b.add (nameTag ++ name) = { b with name := name } := by
  simp [Block.add, readField, nameTag]

theorem add_comment (text : List Char) : b.add (':' :: text) = b := by
  simp [Block.add]

/-- A blank line ends the block that is begun, and what comes behind it is read afresh. -/
theorem readBlocks_append (b : Block) (lines more : List (List Char)) :
    readBlocks b (lines ++ [] :: more) =
      readBlocks b (lines ++ [[]]) ++ readBlocks .fresh more := by
  induction lines generalizing b with
  | nil => simp [readBlocks]
  | cons line lines ih =>
    simp only [List.cons_append, readBlocks]
    split_ifs
    · rw [ih, List.append_assoc]
    · exact ih _

/-- Lines of data are added to the block that is begun. -/
theorem readBlocks_tagged (b : Block) (values more : List (List Char)) :
    readBlocks b (values.map (tag ++ ·) ++ more) =
      readBlocks { b with data := b.data ++ values } more := by
  induction values generalizing b with
  | nil => simp
  | cons value values ih =>
    have hline : (tag ++ value).isEmpty = false := by simp [tag]
    simp only [List.map_cons, List.cons_append, readBlocks, hline, add_tag, Bool.false_eq_true,
      if_false, ih, List.append_assoc]
    rfl

/-! ## Data as it is written -/

/-- The data of an event as it is written, from behind a tag on. -/
def written : List Char → List Char
  | [] => ['\n']
  | c :: rest => if c = '\n' then '\n' :: (tag ++ written rest) else c :: written rest

theorem linesOf_eq_cons (text : List Char) : ∃ line lines, linesOf text = line :: lines := by
  cases text with
  | nil => exact ⟨_, _, rfl⟩
  | cons c rest =>
    unfold linesOf
    split_ifs
    · exact ⟨_, _, rfl⟩
    · split <;> exact ⟨_, _, rfl⟩

/-- The lines of data are written one behind the other, each behind its tag. -/
theorem flatMap_linesOf (text : List Char) :
    ((linesOf text).flatMap fun line => tag ++ line ++ ['\n']) = tag ++ written text := by
  induction text with
  | nil => simp [linesOf, written]
  | cons c rest ih =>
    obtain ⟨line, lines, hlines⟩ := linesOf_eq_cons rest
    rw [hlines, List.flatMap_cons, List.append_assoc, List.append_assoc,
      List.append_cancel_left_eq] at ih
    by_cases hc : c = '\n'
    · simp [linesOf, written, hc, hlines, ← ih]
    · simp [linesOf, written, hc, hlines, ← ih]

theorem toList_eventText (name data : String) :
    (eventText name data).toList =
      (nameTag ++ name.toList) ++ '\n' :: (tag ++ (written data.toList ++ ['\n'])) := by
  have hname : "event: ".toList = nameTag := by simp [nameTag]
  have htag : "data: ".toList = tag := by simp [tag]
  unfold eventText
  dsimp only
  rw [String.toList_ofList, hname, htag, List.append_assoc _ ((linesOf _).flatMap _),
    flatMap_linesOf]
  simp

/-! ## Data as it is read -/

/-- A line that is read where data was written, and whether it has the tag in front. -/
structure Piece where
  tagged : Bool
  text : List Char
deriving DecidableEq, Repr

/-- What is in front of a line. -/
def lead (tagged : Bool) : List Char := if tagged then tag else []

/-- A line as it is read. -/
def Piece.line (p : Piece) : List Char := lead p.tagged ++ p.text

/-- The lines that are read of written data, the first of which is begun, the last character
first. -/
def pieces (tagged : Bool) (begun : List Char) : List Char → List Piece
  | [] => [⟨tagged, begun.reverse⟩]
  | ['\r'] => [⟨tagged, begun.reverse⟩]
  | '\r' :: '\n' :: rest => ⟨tagged, begun.reverse⟩ :: pieces true [] rest
  | c :: rest =>
    if c = '\n' then ⟨tagged, begun.reverse⟩ :: pieces true [] rest
    else if c = '\r' then ⟨tagged, begun.reverse⟩ :: pieces false [] rest
    else pieces tagged (c :: begun) rest

theorem oneLine_tag : OneLine tag := by
  simp [OneLine, tag]

/-- Behind a carriage return in the middle of data no line feed is written. -/
theorem head?_written_append (hrest : rest ≠ []) (hn : ∀ rest', rest ≠ '\n' :: rest') :
    (written rest ++ tail).head? ≠ some '\n' := by
  cases rest with
  | nil => exact absurd rfl hrest
  | cons d rest =>
    have hd : d ≠ '\n' := fun hd => hn rest (by rw [hd])
    simp [written, hd]

/-- Written data is read as its pieces, whatever is written behind it. -/
theorem readLines_written (tagged : Bool) (begun data tail : List Char) :
    readLines (begun ++ (lead tagged).reverse) (written data ++ tail) =
      (pieces tagged begun data).map Piece.line ++ readLines [] tail := by
  have hline (tagged : Bool) (begun : List Char) :
      (begun ++ (lead tagged).reverse).reverse = Piece.line ⟨tagged, begun.reverse⟩ := by
    simp [Piece.line]
  -- Behind a line feed the next tag is read before the data goes on.
  have htag (rest : List Char) : readLines [] (tag ++ written rest ++ tail) =
      readLines ([] ++ (lead true).reverse) (written rest ++ tail) := by
    rw [List.append_assoc, readLines_append oneLine_tag, List.append_nil]
    rfl
  fun_induction pieces tagged begun data with
  | case1 tagged begun =>
    show readLines _ ('\n' :: tail) = _
    rw [readLines_lf, hline]
    rfl
  | case2 tagged begun =>
    show readLines _ ('\r' :: '\n' :: tail) = _
    rw [readLines_crlf, hline]
    rfl
  | case3 tagged begun rest ih =>
    show readLines _ ('\r' :: '\n' :: (tag ++ written rest ++ tail)) = _
    rw [readLines_crlf, hline, htag, ih]
    rfl
  | case4 tagged begun rest _ _ ih =>
    show readLines _ ('\n' :: (tag ++ written rest ++ tail)) = _
    rw [readLines_lf, hline, htag, ih]
    rfl
  | case5 tagged begun rest hnil hlf _ ih =>
    have hhead : (written rest ++ tail).head? ≠ some '\n' :=
      head?_written_append (hnil rfl) fun rest' => hlf rest' rfl
    show readLines _ ('\r' :: (written rest ++ tail)) = _
    rw [readLines_cr hhead, hline]
    exact congrArg _ ih
  | case6 tagged begun c rest _ _ hn hr ih =>
    have hwritten : written (c :: rest) = c :: written rest := by rw [written, if_neg hn]
    rw [hwritten, List.cons_append, readLines_char hn hr]
    exact ih

/-- The pieces of data without a lone carriage return all have their tag, and make up the data. -/
theorem pieces_of_not_loneReturn (begun data : List Char) (h : ¬LoneReturn data) :
    ∃ values, pieces true begun data = values.map (Piece.mk true) ∧ values ≠ [] ∧
      ['\n'].intercalate values = begun.reverse ++ unified data := by
  generalize htagged : true = tagged
  fun_induction pieces tagged begun data with
  | case1 tagged begun =>
    subst htagged
    exact ⟨[begun.reverse], rfl, by simp, by simp [unified]⟩
  | case2 tagged begun => exact absurd ⟨[], [], rfl, by simp⟩ h
  | case3 tagged begun rest ih =>
    subst htagged
    rw [loneReturn_cons, loneReturn_cons, not_or, not_or] at h
    obtain ⟨values, hvalues, hne, hjoin⟩ := ih h.2.2 rfl
    refine ⟨begun.reverse :: values, by rw [hvalues]; rfl, by simp, ?_⟩
    rw [List.intercalate_cons_of_ne_nil hne, hjoin]
    simp [unified]
  | case4 tagged begun rest _ hcrlf ih =>
    subst htagged
    rw [loneReturn_cons, not_or] at h
    obtain ⟨values, hvalues, hne, hjoin⟩ := ih h.2 rfl
    refine ⟨begun.reverse :: values, by rw [hvalues]; rfl, by simp, ?_⟩
    rw [List.intercalate_cons_of_ne_nil hne, hjoin, unified_cons hcrlf]
    simp
  | case5 tagged begun rest _ hcrlf _ ih =>
    refine absurd ⟨[], rest, rfl, fun hhead => ?_⟩ h
    obtain ⟨rest', hrest⟩ := List.head?_eq_some_iff.mp hhead
    exact hcrlf rest' rfl hrest
  | case6 tagged begun c rest _ hcrlf _ hr ih =>
    rw [loneReturn_cons, not_or] at h
    obtain ⟨values, hvalues, hne, hjoin⟩ := ih h.2 htagged
    refine ⟨values, hvalues, hne, ?_⟩
    rw [hjoin, unified_cons hcrlf, if_neg hr]
    simp

/-- How much a line can add to the data of a block at most, a line feed included. -/
def Piece.gain (p : Piece) : Nat := p.text.length + if p.tagged then 1 else 0

theorem gain_begun (tagged : Bool) (begun : List Char) :
    Piece.gain ⟨tagged, begun.reverse⟩ ≤ begun.length + 1 ∧
      (tagged = false → Piece.gain ⟨tagged, begun.reverse⟩ < begun.length + 1) := by
  cases tagged <;> simp [Piece.gain]

/-- Behind a line break that the writer knows of, the line that is begun is a piece of its own. -/
theorem gain_break (tagged : Bool) (begun : List Char) {lone : Prop} {gain size : Nat}
    (h : gain ≤ size + 1 ∧ (lone → gain < size + 1)) :
    Piece.gain ⟨tagged, begun.reverse⟩ + gain ≤ begun.length + (size + 1) + 1 ∧
      (tagged = false ∨ lone →
        Piece.gain ⟨tagged, begun.reverse⟩ + gain < begun.length + (size + 1) + 1) := by
  obtain ⟨hle, hlt⟩ := gain_begun tagged begun
  refine ⟨by omega, ?_⟩
  rintro (htagged | hlone)
  · have := hlt htagged
    omega
  · have := h.2 hlone
    omega

/-- The pieces do not add more than was written, and less if there is a lone carriage return or the
line that is begun has no tag. -/
theorem sum_gain_le (tagged : Bool) (begun data : List Char) :
    ((pieces tagged begun data).map Piece.gain).sum ≤ begun.length + (unified data).length + 1 ∧
    (tagged = false ∨ LoneReturn data →
      ((pieces tagged begun data).map Piece.gain).sum <
        begun.length + (unified data).length + 1) := by
  fun_induction pieces tagged begun data with
  | case1 tagged begun =>
    obtain ⟨hle, hlt⟩ := gain_begun tagged begun
    simp only [List.map_cons, List.map_nil, List.sum_singleton, unified, List.length_nil]
    exact ⟨hle, fun h => hlt (h.resolve_right not_loneReturn_nil)⟩
  | case2 tagged begun =>
    have hle := (gain_begun tagged begun).1
    simp only [List.map_cons, List.map_nil, List.sum_singleton, unified, List.length_cons]
    omega
  | case3 tagged begun rest ih =>
    have hlone : LoneReturn ('\r' :: '\n' :: rest) ↔ LoneReturn rest := by simp [loneReturn_cons]
    simp only [List.length_nil, Nat.zero_add, Bool.true_eq_false, false_or] at ih
    simpa only [List.map_cons, List.sum_cons, unified, List.length_cons, hlone] using
      gain_break tagged begun ih
  | case4 tagged begun rest _ hcrlf ih =>
    have hlone : LoneReturn ('\n' :: rest) ↔ LoneReturn rest := by simp [loneReturn_cons]
    simp only [List.length_nil, Nat.zero_add, Bool.true_eq_false, false_or] at ih
    simpa only [List.map_cons, List.sum_cons, unified_cons hcrlf, List.length_cons, hlone] using
      gain_break tagged begun ih
  | case5 tagged begun rest _ hcrlf _ ih =>
    have hle := (gain_begun tagged begun).1
    have hlt := ih.2 (.inl rfl)
    simp only [List.map_cons, List.sum_cons, unified_cons hcrlf, List.length_cons,
      List.length_nil] at hlt ⊢
    omega
  | case6 tagged begun c rest _ hcrlf _ hr ih =>
    have hrest (h : LoneReturn (c :: rest)) : LoneReturn rest := by
      simpa [loneReturn_cons, hr] using h
    simp only [unified_cons hcrlf, List.length_cons] at ih ⊢
    refine ⟨by omega, fun h => ?_⟩
    have := ih.2 (h.imp_right hrest)
    omega

/-- How much data a block has, with a line feed for each of its lines. -/
def Block.size (b : Block) : Nat := (b.data.map fun value => value.length + 1).sum

theorem length_intercalate {values : List (List Char)} (h : values ≠ []) :
    (['\n'].intercalate values).length + 1 = (values.map fun value => value.length + 1).sum := by
  induction values with
  | nil => exact absurd rfl h
  | cons value values ih =>
    by_cases hv : values = []
    · simp [hv]
    · have := ih hv
      rw [List.intercalate_cons_of_ne_nil hv]
      simp only [List.length_append, List.length_singleton, List.map_cons, List.sum_cons]
      omega

/-- The value of a field is behind its name and a colon. -/
theorem length_readField (line : List Char) :
    (readField line).1.length ≤ line.length ∧
      (readField line).2.length ≤ line.length - ((readField line).1.length + 1) := by
  have hname : (line.takeWhile (· != ':')).length ≤ line.length :=
    (List.takeWhile_prefix _).length_le
  have hdrop := List.length_drop (i := (line.takeWhile (· != ':')).length + 1) (l := line)
  unfold readField
  dsimp only
  split
  · rename_i value hvalue
    rw [hvalue, List.length_cons] at hdrop
    exact ⟨hname, by dsimp only; omega⟩
  · exact ⟨hname, Nat.le_of_eq hdrop⟩

/-- A line does not add more than it can. -/
theorem add_line (b : Block) (p : Piece) :
    b.data <+: (b.add p.line).data ∧ (b.add p.line).size ≤ b.size + p.gain := by
  obtain ⟨tagged, text⟩ := p
  cases tagged with
  | true =>
    have hadd : b.add (Piece.line ⟨true, text⟩) = { b with data := b.data ++ [text] } :=
      add_tag text
    rw [hadd]
    exact ⟨List.prefix_append _ _, by simp [Block.size, Piece.gain]⟩
  | false =>
    show b.data <+: (b.add text).data ∧ (b.add text).size ≤ b.size + (text.length + 0)
    unfold Block.add
    dsimp only
    split_ifs with _ _ hdata
    · exact ⟨List.prefix_rfl, Nat.le_add_right _ _⟩
    · exact ⟨List.prefix_rfl, Nat.le_add_right _ _⟩
    · -- A field of data without the tag in front still has the name of the field.
      obtain ⟨hname, hvalue⟩ := length_readField text
      have hlength : "data".toList.length = 4 := by simp
      rw [hdata, hlength] at hname hvalue
      refine ⟨List.prefix_append _ _, ?_⟩
      simp only [Block.size, List.map_append, List.sum_append, List.map_singleton,
        List.sum_singleton]
      omega
    · exact ⟨List.prefix_rfl, Nat.le_add_right _ _⟩

/-- The first event of a block that has data has no more of it than block and pieces give. -/
theorem first_event_le (ps : List Piece) (b : Block) (hb : b.data ≠ []) (more : List (List Char)) :
    ∃ event rest, readBlocks b (ps.map Piece.line ++ [] :: more) = event :: rest ∧
      event.2.length + 1 ≤ b.size + (ps.map Piece.gain).sum := by
  have hevent (b : Block) (hb : b.data ≠ []) :
      ∃ event, b.event? = some event ∧ event.2.length + 1 = b.size := by
    refine ⟨(String.ofList b.name, String.ofList (['\n'].intercalate b.data)), ?_, ?_⟩
    · simp [Block.event?, hb]
    · rw [String.length_ofList]
      exact length_intercalate hb
  induction ps generalizing b with
  | nil =>
    obtain ⟨event, he, hlength⟩ := hevent b hb
    exact ⟨event, readBlocks .fresh more, by simp [readBlocks, he], Nat.le_of_eq hlength⟩
  | cons p ps ih =>
    obtain ⟨hdata, hsize⟩ := add_line b p
    simp only [List.map_cons, List.cons_append, readBlocks, List.sum_cons]
    split_ifs with hline
    · -- A blank line ends the block before the rest of it is read.
      obtain ⟨event, he, hlength⟩ := hevent b hb
      exact ⟨event, _, by rw [he]; rfl, by omega⟩
    · obtain ⟨event, rest, hread, hlength⟩ := ih (b.add p.line) fun hnil => by
        rw [hnil, List.prefix_nil] at hdata
        exact hb hdata
      exact ⟨event, rest, hread, by omega⟩

/-! ## One event -/

theorem pieces_eq_cons (tagged : Bool) (begun data : List Char) :
    ∃ text rest, pieces tagged begun data = ⟨tagged, text⟩ :: rest := by
  fun_induction pieces tagged begun data with
  | case6 tagged begun c rest _ _ _ _ ih => exact ih
  | _ => exact ⟨_, _, rfl⟩

theorem oneLine_append {text more : List Char} :
    OneLine (text ++ more) ↔ OneLine text ∧ OneLine more := by
  simp only [OneLine, List.mem_append, not_or]
  tauto

/-- The lines of an event: its name, the pieces of its data, and a blank one. -/
theorem readLines_eventText {name : String} (h : OneLine name.toList) (data : String)
    (tail : List Char) :
    readLines [] ((eventText name data).toList ++ tail) =
      ((nameTag ++ name.toList) :: (pieces true [] data.toList).map Piece.line) ++
        [] :: readLines [] tail := by
  have hname : OneLine (nameTag ++ name.toList) :=
    oneLine_append.mpr ⟨by simp [OneLine, nameTag], h⟩
  have hdata := readLines_written true [] data.toList ('\n' :: tail)
  have htext : (eventText name data).toList ++ tail =
      (nameTag ++ name.toList) ++ '\n' :: (tag ++ (written data.toList ++ '\n' :: tail)) := by
    simp [toList_eventText]
  have hblank : readLines [] ('\n' :: tail) = [] :: readLines [] tail := readLines_lf
  rw [hblank] at hdata
  rw [htext, readLines_line hname, readLines_append oneLine_tag, List.cons_append]
  exact congrArg _ hdata

/-- The line with the name names the block. -/
theorem readBlocks_name (name : List Char) (lines : List (List Char)) :
    readBlocks .fresh ((nameTag ++ name) :: lines) = readBlocks ⟨name, []⟩ lines := by
  have hline : (nameTag ++ name).isEmpty = false := by simp [nameTag]
  simp only [readBlocks, hline, add_name, Bool.false_eq_true, if_false]
  rfl

/-- An event without a lone carriage return is read back. -/
theorem read_eventText {name data : String} (h : OneLine name.toList)
    (hdata : ¬LoneReturn data.toList) :
    read (eventText name data) = [(name, String.ofList (unified data.toList))] := by
  have hlines := readLines_eventText h data []
  obtain ⟨values, hvalues, hne, hjoin⟩ := pieces_of_not_loneReturn [] data.toList hdata
  have hmap : (values.map (Piece.mk true)).map Piece.line = values.map (tag ++ ·) := by
    rw [List.map_map]
    rfl
  rw [List.append_nil, hvalues, hmap] at hlines
  rw [read, hlines, List.cons_append, readBlocks_name, readBlocks_tagged]
  have hevent : Block.event? ⟨name.toList, [] ++ values⟩ =
      some (name, String.ofList (unified data.toList)) := by
    have hnl : "\n".toList = ['\n'] := by simp
    simp [Block.event?, hne, hnl, hjoin]
  show (Block.event? ⟨name.toList, [] ++ values⟩).toList ++ readBlocks .fresh (readLines [] []) = _
  rw [hevent]
  rfl

/-- Of an event with a lone carriage return an event with less data is read first. -/
theorem read_eventText_of_loneReturn {name data : String} (h : OneLine name.toList)
    (hdata : LoneReturn data.toList) :
    ∃ event rest, read (eventText name data) = event :: rest ∧
      event.2.length < (unified data.toList).length := by
  have hlines := readLines_eventText h data []
  obtain ⟨text, ps, hps⟩ := pieces_eq_cons true [] data.toList
  have hlt := (sum_gain_le true [] data.toList).2 (.inr hdata)
  rw [List.append_nil, hps, List.map_cons] at hlines
  rw [hps, List.map_cons, List.sum_cons, List.length_nil] at hlt
  -- The first line has its tag, so the block has data before a line without one can end it.
  have htext : Piece.line ⟨true, text⟩ = tag ++ text := rfl
  have hfirst : readBlocks ⟨name.toList, []⟩ ([text].map (tag ++ ·) ++ (ps.map Piece.line ++ [[]])) =
      readBlocks ⟨name.toList, [text]⟩ (ps.map Piece.line ++ [[]]) :=
    readBlocks_tagged ⟨name.toList, []⟩ [text] _
  obtain ⟨event, rest, hread, hle⟩ := first_event_le ps ⟨name.toList, [text]⟩ (by simp) []
  refine ⟨event, rest, ?_, ?_⟩
  · rw [read, hlines, List.cons_append, readBlocks_name, ← hread, ← hfirst, htext]
    rfl
  · simp only [Block.size, Piece.gain, List.map_singleton, List.sum_singleton, if_true] at hle hlt
    omega

/-- Of a comment nothing is read. -/
theorem read_commentText_append {text : String} (h : OneLine text.toList) (tail : List Char) :
    readBlocks .fresh (readLines [] ((commentText text).toList ++ tail)) =
      readBlocks .fresh (readLines [] tail) := by
  have hline : OneLine (':' :: text.toList) := by simpa [OneLine] using h
  have htext : (commentText text).toList ++ tail = (':' :: text.toList) ++ '\n' :: tail := by
    simp [commentText]
  rw [htext, readLines_line hline, readBlocks, add_comment]
  rfl

theorem read_commentText {text : String} (h : OneLine text.toList) :
    read (commentText text) = [] := by
  have hread := read_commentText_append h []
  rw [List.append_nil] at hread
  exact hread

end Testbed.Http.EventStream
