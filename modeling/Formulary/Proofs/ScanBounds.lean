-- The scan by places stays within bounds. Step by step it does what the scan of characters
-- does: every piece that it cuts out is there, and every level that ends has a level around
-- it. So it comes to the same end, in at most three steps for each character and three more.
import Formulary.Proofs.RoundTrip
import Formulary.Proofs.ScanInvariant
import Formulary.Scan.Cursor

namespace Formulary

open String (utf8Len)
open String.Pos (Raw)

/-! ## Cutting -/

/-- A piece is cut out between two ends of characters, the first not behind the second. -/
theorem cut_eq_ok_iff {text piece : String} {start stop : Nat} :
    cut text start stop = .ok piece ↔ start ≤ stop ∧ Raw.IsValid text ⟨start⟩ ∧
      Raw.IsValid text ⟨stop⟩ ∧ Raw.extract text ⟨start⟩ ⟨stop⟩ = piece := by
  rw [← Raw.isValid_eq_true_iff, ← Raw.isValid_eq_true_iff]
  unfold cut
  constructor
  · intro h
    split at h
    · rename_i hplaces
      cases h
      exact ⟨hplaces.1, hplaces.2.1, hplaces.2.2, rfl⟩
    · cases h
  · rintro ⟨hle, hstart, hstop, rfl⟩
    exact if_pos ⟨hle, hstart, hstop⟩

theorem isValid_of_split {text : String} {before after : List Char}
    (h : text.toList = before ++ after) : Raw.IsValid text ⟨utf8Len before⟩ := by
  refine Raw.isValid_iff_exists_append.mpr ⟨String.ofList before, String.ofList after, ?_, ?_⟩
  · rw [← String.ofList_append, ← h, String.ofList_toList]
  · rw [String.rawEndPos_ofList]

/-- A piece that stands in a text can be cut out of it. -/
theorem PieceAt.cut {text : String} {start : Nat} {chars : List Char}
    (h : PieceAt text.toList start chars) :
    cut text start (start + utf8Len chars) = .ok (String.ofList chars) := by
  obtain ⟨before, after, htext, rfl⟩ := h
  have hstop := isValid_of_split (htext.trans (List.append_assoc before chars after).symm)
  rw [String.utf8Len_append] at hstop
  have hextract := String.extract_of_valid before chars after
  rw [List.append_assoc, ← htext, String.ofList_toList] at hextract
  exact cut_eq_ok_iff.mpr ⟨Nat.le_add_right _ _, isValid_of_split htext, hstop, hextract⟩

theorem Span.Stands.cut {text : String} {s : Span} (h : s.Stands text.toList) :
    Formulary.cut text s.start s.stop = .ok s.chars := by
  rw [Span.stop_eq, PieceAt.cut h, String.ofList_toList]

/-! ## Characters of one byte -/

theorem utf8Size_of_isDigit {c : Char} (h : c.isDigit = true) : c.utf8Size = 1 := by
  have hc : 48 ≤ c.toNat ∧ c.toNat ≤ 57 := by
    simpa [Char.isDigit, UInt32.le_iff_toNat_le] using h
  rw [Char.utf8Size_eq_one_iff, UInt32.le_iff_toNat_le]
  exact hc.2.trans (by decide)

theorem utf8Size_of_isOperatorChar {c : Char} (h : isOperatorChar c = true) :
    c.utf8Size = 1 := by
  rcases CharClass.isOperatorChar_iff.mp h with rfl | rfl | rfl | rfl | rfl | rfl | rfl | rfl <;>
    rfl

/-! ## Owners -/

namespace Owner

variable (owner : Owner) (origin : Nat)

theorem blank_start : (owner.blank origin).span.start = origin := by
  cases owner <;> rfl

theorem group_accepts_blank :
    TypeMask.group.accepts (owner.blank origin).type = (owner == .group) := by
  cases owner with
  | group => exact (by decide : TypeMask.group.accepts .group = true)
  | call method => exact (by decide : TypeMask.group.accepts .call = false)

theorem call_accepts_blank :
    TypeMask.call.accepts (owner.blank origin).type = (owner != .group) := by
  cases owner with
  | group => exact (by decide : TypeMask.call.accepts .group = false)
  | call method => exact (by decide : TypeMask.call.accepts .call = true)

theorem owner_accepts_blank :
    (TypeMask.union .group .call).accepts (owner.blank origin).type = true := by
  cases owner with
  | group => exact (by decide : (TypeMask.union .group .call).accepts .group = true)
  | call method => exact (by decide : (TypeMask.union .group .call).accepts .call = true)

end Owner

/-! ## The scan of characters by places -/

/-- The levels around the current one by places: each has the node of its open owner behind the
nodes before it. -/
def suspended : List Frame → List Suspended
  | [] => []
  | f :: frames =>
    ⟨frames.length, (f.owner.blank f.origin :: f.before).reverse, f.owner, f.origin⟩ ::
      suspended frames

/-- A state of the scan of characters by places. -/
def Scanner.byPlaces (text : String) (s : Scanner) : Cursor :=
  ⟨text, s.index, s.frames.length, s.nodes.reverse, suspended s.frames, s.mode⟩

/-- The result of a step by places. -/
def stepByPlaces (text : String) : Except Fault Scanner → Except Halt Cursor
  | .error fault => .error (.fault fault)
  | .ok s => .ok (s.byPlaces text)

namespace Scanner

variable {text : String} {s t : Scanner} {c : Char} {rest : List Char}

@[simp] theorem isFirst_byPlaces : (s.byPlaces text).isFirst = s.isFirst := List.isEmpty_reverse

@[simp] theorem isBehind_byPlaces (types : TypeMask) :
    (s.byPlaces text).isBehind types = s.isBehind types := by
  unfold Cursor.isBehind Scanner.isBehind
  rw [byPlaces, List.getLast?_reverse]

theorem isIn_byPlaces (types : TypeMask) : (s.byPlaces text).isIn types =
    s.frames.head?.any fun f => types.accepts (f.owner.blank f.origin).type := by
  unfold Cursor.isIn byPlaces
  cases s.frames with
  | nil => rfl
  | cons f frames => simp [suspended]

@[simp] theorem isIn_group_byPlaces : (s.byPlaces text).isIn .group = s.inGroup := by
  simp only [isIn_byPlaces, inGroup, Owner.group_accepts_blank]

@[simp] theorem isIn_call_byPlaces : (s.byPlaces text).isIn .call = s.inCall := by
  simp only [isIn_byPlaces, inCall, Owner.call_accepts_blank]

@[simp] theorem isIn_owner_byPlaces :
    (s.byPlaces text).isIn (.union .group .call) = !s.frames.isEmpty := by
  simp only [isIn_byPlaces, Owner.owner_accepts_blank]
  cases s.frames <;> rfl

@[simp] theorem expectsOperand_byPlaces :
    (s.byPlaces text).expectsOperand = s.expectsOperand := by
  simp [Cursor.expectsOperand, Scanner.expectsOperand]

@[simp] theorem notCallable_byPlaces : (s.byPlaces text).notCallable = s.notCallable := by
  unfold Cursor.notCallable Scanner.notCallable byPlaces
  rw [List.getLast?_reverse]
  cases s.nodes <;> rfl

@[simp] theorem frames_byPlaces : (s.byPlaces text).frames.isEmpty = s.frames.isEmpty := by
  unfold byPlaces
  cases s.frames <;> rfl

theorem push_byPlaces (node : Node) :
    (s.push node).byPlaces text = (s.byPlaces text).push node := by
  unfold byPlaces Cursor.push Scanner.push
  rw [List.reverse_cons]

theorem enter_byPlaces (owner : Owner) (origin : Nat) :
    (s.enter owner origin).byPlaces text = (s.byPlaces text).enter owner origin := by
  simp [byPlaces, Cursor.enter, Scanner.enter, suspended]

theorem advance_byPlaces (hrest : s.rest = c :: rest) :
    s.advance.byPlaces text = (s.byPlaces text).advance c := by
  rw [advance_of_rest hrest]
  rfl

theorem skip_byPlaces (hrest : s.rest = c :: rest) (hc : c.utf8Size = 1) :
    s.advance.byPlaces text = (s.byPlaces text).skip := by
  rw [advance_byPlaces hrest, Cursor.advance, hc]
  rfl

/-! ## What the scan cuts out -/

theorem Reads.pieceAt_rest {text : List Char} (h : Reads text s) : PieceAt text s.index s.rest :=
  ⟨s.read.reverse, [], by rw [List.append_nil, ← h.whole],
    by rw [h.index, String.utf8Len_reverse]⟩

theorem Reads.stop_rest (h : Reads text.toList s) :
    s.index + utf8Len s.rest = text.utf8ByteSize := by
  rw [← String.utf8Len_toList, h.whole, String.utf8Len_append, String.utf8Len_reverse, h.index]

theorem Reads.peek (h : Reads text.toList s) : (s.byPlaces text).peek = .ok s.rest.head? := by
  have hcut := h.pieceAt_rest.cut
  rw [h.stop_rest] at hcut
  unfold Cursor.peek
  change (·.toList.head?) <$> cut text s.index text.utf8ByteSize = _
  rw [hcut]
  change Except.ok (String.ofList s.rest).toList.head? = _
  rw [String.toList_ofList]

theorem Reads.behindNext (h : Reads text.toList s) :
    (s.byPlaces text).behindNext s.rest.head? = s.index + utf8Len (s.rest.take 1) := by
  have hstop := h.stop_rest
  cases hrest : s.rest with
  | nil =>
    rw [hrest] at hstop
    exact hstop.symm
  | cons c rest =>
    change s.index + c.utf8Size = s.index + (0 + c.utf8Size)
    rw [Nat.zero_add]

theorem Reads.textFrom_byPlaces (h : Reads text.toList s) {start : Nat} {chars : List Char}
    (hread : s.HasRead start chars) :
    (s.byPlaces text).textFrom start = .ok (s.textFrom start) := by
  have hcut := (h.pieceAt hread).cut
  rw [h.stop_eq hread] at hcut
  rw [h.textFrom_eq hread]
  exact hcut

/-- Every run between commas is taken from the nodes in their order. -/
theorem sublist_of_mem_splitCommas {nodes run : List Node} (h : run ∈ splitCommas nodes) :
    run.Sublist nodes := by
  induction nodes generalizing run with
  | nil =>
    rw [List.mem_singleton.mp h]
  | cons node more ih =>
    obtain ⟨first, runs, hmore⟩ : ∃ first runs, splitCommas more = first :: runs := ⟨_, _, rfl⟩
    cases hcomma : node.isComma with
    | true =>
      have hsplit : splitCommas (node :: more) = [] :: splitCommas more := by
        simp [splitCommas, hcomma]
      rw [hsplit] at h
      cases h with
      | head => exact List.nil_sublist _
      | tail _ h => exact (ih h).cons node
    | false =>
      rw [splitCommas_cons hcomma hmore] at h
      cases h with
      | head => exact (ih (hmore ▸ List.mem_cons_self)).cons_cons node
      | tail _ h => exact (ih (hmore ▸ List.mem_cons_of_mem first h)).cons node

/-- A run of nodes that stand in the text one behind the other makes the same argument. -/
theorem Reads.argument_byPlaces (h : Reads text.toList s) {run : List Node}
    (hstands : ∀ node ∈ run, node.span.Stands text.toList ∧ node.span.stop ≤ s.index)
    (horder : run.Pairwise fun a b => a.span.stop ≤ b.span.start) :
    (s.byPlaces text).argument run = (s.argument run).mapError .fault := by
  match run with
  | [] => rfl
  | [_] => rfl
  | first :: second :: more =>
    obtain ⟨last, hlast⟩ := Option.isSome_iff_exists.mp
      (List.getLast?_isSome.mpr (List.cons_ne_nil second more))
    have hmem := List.mem_of_getLast? hlast
    have hbehind := (List.pairwise_cons.mp horder).1 last hmem
    obtain ⟨hfirst, -⟩ := hstands first List.mem_cons_self
    obtain ⟨hlaststands, hindex⟩ := hstands last (List.mem_cons_of_mem _ hmem)
    rw [Span.stop_eq] at hindex
    obtain ⟨chars, hchars, hstop⟩ := hfirst.exists_between hlaststands
      (first.span.start_le_stop.trans (hbehind.trans (Nat.le_add_right _ _)))
    have hcut := hchars.cut
    have hbetween := h.textBetween_eq hchars (by omega)
    rw [hstop, ← Span.stop_eq] at hcut hbetween
    unfold Cursor.argument Scanner.argument
    dsimp only
    rw [hlast, Option.map_some, Option.getD_some]
    change (cut text first.span.start last.span.stop >>= _) = _
    rw [hcut, hbetween]
    rfl

theorem mapM_mapError {α β : Type} {f : α → Except Halt β} {g : α → Except Fault β}
    {as : List α} (h : ∀ a ∈ as, f a = (g a).mapError .fault) :
    as.mapM f = (as.mapM g).mapError .fault := by
  induction as with
  | nil => rfl
  | cons a as ih =>
    rw [List.mapM_cons, List.mapM_cons, h a List.mem_cons_self,
      ih fun b hb => h b (List.mem_cons_of_mem a hb)]
    cases g a with
    | error fault => rfl
    | ok b => cases as.mapM g <;> rfl

theorem Tidy.arguments_byPlaces (h : Tidy text.toList s) (hm : s.mode = .base) :
    (s.byPlaces text).arguments s.nodes.reverse =
      (s.arguments s.nodes.reverse).mapError .fault := by
  unfold Cursor.arguments Scanner.arguments
  split
  · rfl
  · refine mapM_mapError fun run hrun => ?_
    have hsublist := sublist_of_mem_splitCommas hrun
    refine h.reads.argument_byPlaces (fun node hnode => ?_)
      (h.level.pairwise_reverse.sublist hsublist)
    obtain ⟨hstands, -, hstop⟩ := h.level.of_mem (List.mem_reverse.mp (hsublist.subset hnode))
    exact ⟨hstands, hstop.trans_eq (front_of_base hm)⟩

/-! ## Step by step -/

theorem completeLast_blank (final : Nat → Node) (owner : Owner) (origin : Nat)
    (before : List Node) : completeLast final (owner.blank origin :: before).reverse =
      (final origin :: before).reverse := by
  simp [completeLast, Owner.blank_start]

theorem rise_byPlaces (final : Nat → Node) (owner : Owner) (origin : Nat) (before : List Node)
    (frames : List Frame) (mode : Mode) :
    (s.byPlaces text).rise
      ⟨frames.length, (owner.blank origin :: before).reverse, owner, origin⟩ (suspended frames)
      final mode =
        Scanner.byPlaces text { s with nodes := final origin :: before, frames, mode } := by
  unfold Cursor.rise Scanner.byPlaces
  rw [completeLast_blank]

/-- A level that ends has a level around it, and the text of its owner is there. -/
theorem Tidy.leave_byPlaces (h : Tidy text.toList s) (hm : s.mode = .base) (hf : s.frames ≠ []) :
    (s.byPlaces text).leave = stepByPlaces text s.leave := by
  obtain ⟨⟨owner, origin, before⟩, frames, hframes⟩ := List.exists_cons_of_ne_nil hf
  have hspan := h.ownerSpan_of_frames hm hframes
  have hcut : cut text origin ((s.byPlaces text).behindNext s.rest.head?) =
      .ok (s.ownerSpan origin).chars := by
    rw [h.reads.behindNext, ← hspan.2]
    exact hspan.1.cut
  have hsuspended : (s.byPlaces text).frames =
      ⟨frames.length, (owner.blank origin :: before).reverse, owner, origin⟩ ::
        suspended frames := congrArg suspended hframes
  unfold Cursor.leave Scanner.leave
  rw [hsuspended, hframes]
  dsimp only
  rw [h.reads.peek]
  cases owner with
  | group =>
    change (cut text origin ((s.byPlaces text).behindNext s.rest.head?) >>= fun chars =>
      .ok ((s.byPlaces text).rise _ _ (fun start => .group ⟨start, chars⟩ s.nodes.reverse) _)) = _
    rw [hcut]
    exact congrArg Except.ok (rise_byPlaces _ _ _ _ _ _)
  | call method =>
    change ((s.byPlaces text).arguments s.nodes.reverse >>= fun params =>
      cut text origin ((s.byPlaces text).behindNext s.rest.head?) >>= fun chars =>
        .ok ((s.byPlaces text).rise _ _ (fun start => .call ⟨start, chars⟩ method params) _)) = _
    rw [h.arguments_byPlaces hm, hcut]
    cases s.arguments s.nodes.reverse with
    | error fault => rfl
    | ok params => exact congrArg Except.ok (rise_byPlaces _ _ _ _ _ _)

/-- A choice by the same condition is a choice between the same results. -/
theorem ite_byPlaces {p : Prop} [Decidable p] {yes no : Except Fault Scanner}
    {yes' no' : Except Halt Cursor} (hyes : p → yes' = stepByPlaces text yes)
    (hno : ¬ p → no' = stepByPlaces text no) :
    (if p then yes' else no') = stepByPlaces text (if p then yes else no) := by
  split
  · exact hyes ‹_›
  · exact hno ‹_›

theorem Tidy.scanEnd_byPlaces (h : Tidy text.toList s) (hm : s.mode = .base) :
    (s.byPlaces text).scanEnd = stepByPlaces text s.scanEnd := by
  unfold Cursor.scanEnd Scanner.scanEnd
  simp only [frames_byPlaces, isFirst_byPlaces, isBehind_byPlaces]
  refine ite_byPlaces (fun hf => ?_) fun _ => ite_byPlaces (fun _ => rfl) fun _ => rfl
  exact h.leave_byPlaces hm (by simpa using hf)

/-- The first character of a token. Those that begin a token by themselves have one byte. -/
theorem Tidy.scanToken_byPlaces (h : Tidy text.toList s) (hm : s.mode = .base)
    (hrest : s.rest = c :: rest) :
    (s.byPlaces text).scanToken c = stepByPlaces text (s.scanToken c) := by
  have hc := CharClass.holds_ofChar c
  have hadvance : s.advance.byPlaces text = (s.byPlaces text).advance c := advance_byPlaces hrest
  have hskip : c.utf8Size = 1 → s.advance.byPlaces text = (s.byPlaces text).skip :=
    skip_byPlaces hrest
  unfold Cursor.scanToken Scanner.scanToken
  simp only [expectsOperand_byPlaces, isIn_owner_byPlaces, isIn_group_byPlaces,
    isIn_call_byPlaces, isFirst_byPlaces, isBehind_byPlaces, notCallable_byPlaces, Bool.not_not]
  cases hclass : CharClass.ofChar c <;> rw [hclass] at hc <;> dsimp only
  case endOfText => exact hc.elim
  case space => exact congrArg Except.ok hadvance.symm
  case groupStart =>
    refine ite_byPlaces (fun _ => congrArg Except.ok ?_) fun _ => rfl
    rw [enter_byPlaces, hskip (hc ▸ rfl)]
    rfl
  case groupEnd =>
    refine ite_byPlaces (fun _ => rfl) fun hin => ite_byPlaces (fun _ => rfl) fun _ => ?_
    exact h.leave_byPlaces hm fun hf => hin (by simp [hf])
  case digit => exact ite_byPlaces (fun _ => rfl) fun _ => rfl
  case decimalPoint => exact ite_byPlaces (fun _ => rfl) fun _ => rfl
  case operator => rfl
  case quote =>
    refine ite_byPlaces (fun _ => rfl) fun _ => congrArg Except.ok ?_
    rw [← hadvance]
    rfl
  case referenceStart =>
    refine ite_byPlaces (fun _ => congrArg Except.ok ?_) fun _ => rfl
    rw [← hskip (hc ▸ rfl)]
    rfl
  case callStart =>
    refine ite_byPlaces (fun _ => congrArg Except.ok ?_) fun _ => rfl
    rw [← hskip (hc ▸ rfl)]
    rfl
  case comma =>
    refine ite_byPlaces (fun _ => rfl) fun _ => congrArg Except.ok ?_
    have hpush : (s.push (.comma s.index)).rest = c :: rest := hrest
    rw [skip_byPlaces hpush (hc ▸ rfl), push_byPlaces]
    rfl
  case other => exact ite_byPlaces (fun _ => rfl) fun _ => rfl

theorem continueNumber_byPlaces (hrest : s.rest = c :: rest) (hc : c.utf8Size = 1)
    (scan : NumberScan) :
    (s.continueNumber scan c).byPlaces text = (s.byPlaces text).continueNumber scan c := by
  unfold Cursor.continueNumber
  rw [← skip_byPlaces hrest hc]
  rfl

theorem Tidy.endNumber_byPlaces (h : Tidy text.toList s) {scan : NumberScan}
    (hm : s.mode = .number scan) (next : Option Char) :
    (s.byPlaces text).endNumber scan next = stepByPlaces text (s.endNumber scan next) := by
  have hread := h.token _ _ (by rw [hm]; rfl)
  unfold Cursor.endNumber Scanner.endNumber
  refine ite_byPlaces (fun _ => rfl) fun _ => ?_
  cases NumberLiteral.evaluate scan.literal.reverse (scan.sign == some .subtract) with
  | error fault => rfl
  | ok x =>
    dsimp only
    rw [h.reads.textFrom_byPlaces hread]
    exact congrArg Except.ok (push_byPlaces _).symm

/-- The characters of a number have one byte. -/
theorem Tidy.scanNumber_byPlaces (h : Tidy text.toList s) {scan : NumberScan}
    (hm : s.mode = .number scan) :
    (s.byPlaces text).scanNumber scan s.rest.head? = stepByPlaces text (s.scanNumber scan) := by
  have hend := h.endNumber_byPlaces hm
  unfold Cursor.scanNumber Scanner.scanNumber
  rcases hrest : s.rest with _ | ⟨c, rest⟩
  · exact hend none
  · have hcontinue : ∀ scan : NumberScan, c.utf8Size = 1 →
        (.ok ((s.byPlaces text).continueNumber scan c) : Except Halt Cursor) =
          stepByPlaces text (.ok (s.continueNumber scan c)) :=
      fun scan hc => congrArg Except.ok (continueNumber_byPlaces hrest hc scan).symm
    dsimp only [List.head?_cons]
    refine ite_byPlaces (fun hc => hcontinue _ (utf8Size_of_isDigit hc)) fun _ => ?_
    refine ite_byPlaces (fun hc => ?_) fun _ => ?_
    · exact ite_byPlaces (fun _ => rfl) fun _ => hcontinue _ (hc ▸ rfl)
    refine ite_byPlaces (fun hc => ?_) fun _ => ?_
    · exact ite_byPlaces (fun _ => rfl) fun _ => hcontinue _ (hc ▸ rfl)
    refine ite_byPlaces (fun hc => ?_) fun _ => hend (some c)
    rcases hc.1 with hc | hc
    · exact hcontinue _ (hc ▸ rfl)
    · exact hcontinue _ (hc ▸ rfl)

theorem endOperator_byPlaces (origin : Nat) (symbol : String) :
    (s.byPlaces text).endOperator origin symbol =
      stepByPlaces text (s.endOperator origin symbol) := by
  unfold Cursor.endOperator Scanner.endOperator
  simp only [expectsOperand_byPlaces, isBehind_byPlaces]
  cases Operator.ofSymbol? symbol with
  | none => rfl
  | some op =>
    refine ite_byPlaces (fun _ => rfl) fun _ => ite_byPlaces (fun _ => ?_) fun _ => rfl
    exact congrArg Except.ok (push_byPlaces _).symm

/-- The characters of an operator have one byte. -/
theorem scanOperator_byPlaces (origin : Nat) (symbol : String) :
    (s.byPlaces text).scanOperator origin symbol s.rest.head? =
      stepByPlaces text (s.scanOperator origin symbol) := by
  unfold Cursor.scanOperator Scanner.scanOperator
  rcases hrest : s.rest with _ | ⟨c, rest⟩
  · exact endOperator_byPlaces origin symbol
  · dsimp only [List.head?_cons]
    refine ite_byPlaces (fun hc => congrArg Except.ok ?_) fun _ => endOperator_byPlaces _ _
    rw [← skip_byPlaces hrest (utf8Size_of_isOperatorChar hc)]
    rfl

/-- The token under way ends with the next character, and its text is there. -/
theorem Tidy.textFrom_advance_byPlaces (h : Tidy text.toList s) {start : Nat} {chars : List Char}
    (hm : s.mode.token? = some (start, chars)) (hrest : s.rest = c :: rest) :
    (s.advance.byPlaces text).textFrom start = .ok (s.advance.textFrom start) :=
  (h.reads.advance hrest).textFrom_byPlaces ((h.token start chars hm).snoc hrest)

theorem Tidy.scanText_byPlaces (h : Tidy text.toList s) {origin : Nat} {quote : Char}
    {content : String} (hm : s.mode = .text origin quote content) :
    (s.byPlaces text).scanText origin quote content s.rest.head? =
      stepByPlaces text (s.scanText origin quote content) := by
  unfold Cursor.scanText Scanner.scanText
  rcases hrest : s.rest with _ | ⟨c, rest⟩
  · rfl
  · have htext := h.textFrom_advance_byPlaces (by rw [hm]; rfl) hrest
    dsimp only [List.head?_cons]
    rw [← advance_byPlaces hrest]
    refine ite_byPlaces (fun _ => ?_) fun _ => rfl
    unfold Cursor.endText Scanner.endText
    simp only [isFirst_byPlaces, isIn_call_byPlaces, isBehind_byPlaces]
    refine ite_byPlaces (fun _ => ?_) fun _ => ite_byPlaces (fun _ => rfl) fun _ => rfl
    rw [htext]
    exact congrArg Except.ok (push_byPlaces _).symm

theorem Tidy.scanReference_byPlaces (h : Tidy text.toList s) {origin : Nat} {key : String}
    (hm : s.mode = .reference origin key) :
    (s.byPlaces text).scanReference origin key s.rest.head? =
      stepByPlaces text (s.scanReference origin key) := by
  unfold Cursor.scanReference Scanner.scanReference
  rcases hrest : s.rest with _ | ⟨c, rest⟩
  · rfl
  · have htext := h.textFrom_advance_byPlaces (by rw [hm]; rfl) hrest
    dsimp only [List.head?_cons]
    refine ite_byPlaces (fun hc => ite_byPlaces (fun _ => rfl) fun _ => ?_) fun _ => ?_
    · rw [← skip_byPlaces hrest (hc ▸ rfl), htext]
      exact congrArg Except.ok (push_byPlaces _).symm
    · rw [← advance_byPlaces hrest]
      rfl

theorem scanCallName_byPlaces (origin : Nat) (name : String) :
    (s.byPlaces text).scanCallName origin name s.rest.head? =
      stepByPlaces text (s.scanCallName origin name) := by
  unfold Cursor.scanCallName Scanner.scanCallName
  rcases hrest : s.rest with _ | ⟨c, rest⟩
  · rfl
  · dsimp only [List.head?_cons]
    refine ite_byPlaces (fun hc => ite_byPlaces (fun _ => rfl) fun _ => ?_) fun _ => ?_
    · rw [← skip_byPlaces hrest (hc ▸ rfl)]
      exact congrArg Except.ok (enter_byPlaces _ _).symm
    · refine ite_byPlaces (fun _ => ?_) fun _ => rfl
      rw [← advance_byPlaces hrest]
      rfl

theorem scanClose_byPlaces (unclosed : Fault) :
    (s.byPlaces text).scanClose unclosed s.rest.head? =
      stepByPlaces text (s.scanClose unclosed) := by
  unfold Cursor.scanClose Scanner.scanClose
  rcases hrest : s.rest with _ | ⟨c, rest⟩
  · rfl
  · by_cases hc : c = ')'
    · subst hc
      dsimp only [List.head?_cons]
      rw [← skip_byPlaces hrest rfl]
      rfl
    · simp [hc, Cursor.fail, stepByPlaces]

/-- The law of a step: by places it is the same step. -/
theorem Tidy.step_byPlaces (h : Tidy text.toList s) :
    (s.byPlaces text).step = stepByPlaces text s.step := by
  have hmode : (s.byPlaces text).mode = s.mode := rfl
  unfold Cursor.step Scanner.step
  rw [h.reads.peek, hmode]
  cases hm : s.mode with
  | base =>
    unfold Scanner.scanBase
    rcases hrest : s.rest with _ | ⟨c, rest⟩
    · exact h.scanEnd_byPlaces hm
    · exact h.scanToken_byPlaces hm hrest
  | number scan => exact h.scanNumber_byPlaces hm
  | operator origin symbol => exact scanOperator_byPlaces origin symbol
  | text origin quote content => exact h.scanText_byPlaces hm
  | reference origin key => exact h.scanReference_byPlaces hm
  | callName origin name => exact scanCallName_byPlaces origin name
  | groupClose => exact scanClose_byPlaces .unclosedGroup
  | callClose method => exact scanClose_byPlaces (.uncalledMethod method)
  | complete => rfl

end Scanner

/-! ## Levels that wait -/

/-- The last node of a level that waits is the owner that the level waits for, still without its
inside. It opened the level above: the text has its opening at the place of the node, and the
nodes above stand behind that. -/
structure Suspended.Opened (text : String) (above : List Node) (f : Suspended) : Prop where
  last : f.nodes.getLast? = some (f.owner.blank f.origin)
  opening : PieceAt text.toList f.origin f.owner.opening
  behind : ∀ node ∈ above, f.origin + utf8Len f.owner.opening ≤ node.span.start

/-- Each level that waits opened the one above it, and is as deep as there are levels around
it. -/
def Waiting (text : String) : List Node → List Suspended → Prop
  | _, [] => True
  | above, f :: frames => f.Opened text above ∧ f.depth = frames.length ∧
      Waiting text f.nodes frames

theorem length_suspended (frames : List Frame) : (suspended frames).length = frames.length := by
  induction frames with
  | nil => rfl
  | cons f frames ih => rw [suspended, List.length_cons, List.length_cons, ih]

theorem waiting_suspended {text : String} {nodes : List Node} {frames : List Frame}
    (hnested : Nested text.toList frames)
    (hinside : ∀ node ∈ nodes, insideOf frames ≤ node.span.start) :
    Waiting text nodes (suspended frames) := by
  induction frames generalizing nodes with
  | nil => trivial
  | cons f frames ih =>
    obtain ⟨hopening, hbefore, hframes⟩ := hnested
    refine ⟨⟨?_, hopening, hinside⟩, (length_suspended frames).symm, ih hframes ?_⟩
    · rw [List.getLast?_reverse, List.head?_cons]
    · intro node hnode
      rcases List.mem_cons.mp (List.mem_reverse.mp hnode) with rfl | hnode
      · rw [Owner.blank_start]
        exact hbefore.low_le_high
      · exact (hbefore.of_mem hnode).2.1

/-! ## The law -/

namespace Cursor

/-- A state within bounds: the scan is between two characters of the text, and as many levels
wait as it is deep. -/
structure Sound (text : String) (c : Cursor) : Prop where
  whole : c.text = text
  index : Raw.IsValid text ⟨c.index⟩
  depth : c.depth = c.frames.length
  waiting : Waiting text c.nodes c.frames

/-- After so many steps the scan is over, with this result. -/
def EndsAfter (text : String) (steps : Nat) : Except Fault (List Node) → Prop
  | .ok nodes => ∃ c, after text steps = .ok c ∧ c.mode = .complete ∧ c.nodes = nodes
  | .error fault => after text steps = .error (.fault fault)

/-- The scan of the text ends in time, all its states are within bounds, and nothing but a fault
of the text makes it halt: it never lacks a piece that it is to cut out, or a level to go back
to. -/
structure Bounded (text : String) : Prop where
  ends : ∃ steps ≤ 3 * (text.length + 1), EndsAfter text steps (tokenize text)
  sound : ∀ steps c, after text steps = .ok c → Sound text c
  halts : ∀ steps halt, after text steps = .error halt → ∃ fault, halt = .fault fault

open Scanner

variable {text : String} {s : Scanner}

theorem sound_byPlaces (h : Tidy text.toList s) : Sound text (s.byPlaces text) where
  whole := rfl
  index := by
    have hindex := isValid_of_split h.reads.whole
    rwa [String.utf8Len_reverse, ← h.reads.index] at hindex
  depth := (length_suspended s.frames).symm
  waiting := waiting_suspended h.nested fun _ hnode =>
    (h.level.of_mem (List.mem_reverse.mp hnode)).2.1

theorem after_succ {steps : Nat} {c : Cursor} (h : after text steps = .ok c) :
    after text (steps + 1) = c.step := by
  rw [after, h]
  rfl

/-- After any number of steps, the scan by places is where the scan of characters is, or there
was a fault. -/
theorem after_cases (text : String) (steps : Nat) :
    (∃ s, Tidy text.toList s ∧ after text steps = .ok (s.byPlaces text)) ∨
      ∃ fault, after text steps = .error (.fault fault) := by
  induction steps with
  | zero => exact .inl ⟨_, tidy_start text.toList, rfl⟩
  | succ steps ih =>
    rcases ih with ⟨s, htidy, hafter⟩ | ⟨fault, hafter⟩
    · rw [after_succ hafter, htidy.step_byPlaces]
      cases hstep : s.step with
      | error fault => exact .inr ⟨fault, rfl⟩
      | ok t => exact .inl ⟨t, htidy.step hstep, rfl⟩
    · refine .inr ⟨fault, ?_⟩
      rw [after, hafter]
      rfl

/-- Each step makes the scan smaller, so it ends after as many steps as it is large, or one
more. -/
theorem exists_endsAfter {s : Scanner} {steps : Nat} (htidy : Tidy text.toList s)
    (hafter : after text steps = .ok (s.byPlaces text)) :
    ∃ last ≤ steps + s.size + 1, EndsAfter text last s.result := by
  by_cases hm : s.mode = .complete
  · refine ⟨steps, by omega, ?_⟩
    rw [result_of_complete hm]
    exact ⟨_, hafter, hm, rfl⟩
  · have hnext := after_succ hafter
    rw [htidy.step_byPlaces] at hnext
    cases hstep : s.step with
    | error fault =>
      rw [hstep] at hnext
      refine ⟨steps + 1, by omega, ?_⟩
      rw [result_of_fault hm hstep]
      exact hnext
    | ok t =>
      rw [hstep] at hnext
      have hsize := size_step hm hstep
      obtain ⟨last, hlast, hends⟩ := exists_endsAfter (htidy.step hstep) hnext
      refine ⟨last, by omega, ?_⟩
      rw [result_of_step hm hstep]
      exact hends
termination_by s.size

/-- The law of the scan by places. -/
theorem scan_bounded (text : String) : Bounded text where
  ends := by
    have hstart : after text 0 = .ok ((Scanner.start text.toList).byPlaces text) := rfl
    obtain ⟨last, hlast, hends⟩ := exists_endsAfter (tidy_start text.toList) hstart
    refine ⟨last, ?_, ?_⟩
    · simp only [Scanner.size, Scanner.start, Mode.rank, String.length_toList] at hlast
      omega
    · rw [tokenize_eq_result]
      exact hends
  sound := by
    intro steps c hafter
    rcases after_cases text steps with ⟨s, htidy, hs⟩ | ⟨fault, hs⟩
    · rw [hs] at hafter
      cases hafter
      exact sound_byPlaces htidy
    · rw [hs] at hafter
      cases hafter
  halts := by
    intro steps halt hafter
    rcases after_cases text steps with ⟨s, -, hs⟩ | ⟨fault, hs⟩
    · rw [hs] at hafter
      cases hafter
    · rw [hs] at hafter
      cases hafter
      exact ⟨fault, rfl⟩

end Cursor

end Formulary
