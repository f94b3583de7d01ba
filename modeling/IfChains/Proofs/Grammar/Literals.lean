/-
**What literals are read as.**

A number is a constant. Adjacent texts are a constant, or a formatted text whose parts are constants
and replacement fields. A field holds an expression that is read as a text of its own.
-/

import IfChains.Grammar.Literal
import IfChains.Proofs.Grammar.Yielding

namespace IfChains

open IfChains.Tree IfChains.Reading

namespace Grammar

theorem yields_number : number.Yields (Fits .expression) := by
  refine .token fun token => ?_
  dsimp only
  split
  · exact yields_get.skip fun _ => yields_stop_bind
  · exact yields_pure (by simp)

/-- A part of a text whose field fits, if it is one. -/
def Piece.Fits : Piece → Prop
  | .text _ => True
  | .field tree => tree.Fits .expression

namespace Formatted

variable (formatted : Formatted) {pieces : List Piece}

/-- The parts of a formatted text are expressions. -/
theorem fits_assemble (fit : ∀ piece ∈ pieces, piece.Fits) :
    ∀ tree ∈ formatted.assemble pieces, tree.Fits .expression := by
  have close : ∀ (points : CodePoints) {parts : List SourceTree},
      (∀ part ∈ parts, part.Fits .expression) →
      ∀ part ∈ (if points.isEmpty then parts
        else tree formatted.place (.constant (.text points formatted.marked)) [] :: parts),
        part.Fits .expression := by
    intro points parts areParts
    split
    · exact areParts
    · exact List.forall_mem_cons.mpr ⟨by simp, areParts⟩
  unfold assemble
  dsimp only
  refine close _ ?_
  induction pieces with
  | nil => simp
  | cons piece rest ih =>
    obtain ⟨fits, others⟩ := List.forall_mem_cons.mp fit
    cases piece with
    | text value => exact ih others
    | field field => exact List.forall_mem_cons.mpr ⟨fits, close _ (ih others)⟩

theorem fits_joined (fit : ∀ piece ∈ pieces, piece.Fits) :
    (formatted.joined pieces).Fits .expression := by
  have parts := formatted.fits_assemble fit
  simp_all [joined]

theorem yields_expression (inner text : List Char) :
    (formatted.expression inner text).Yields (Fits .expression) := by
  refine ⟨fun table state reliable fitting => ?_⟩
  unfold expression
  dsimp only
  split
  · next read =>
    refine ⟨fitting, good_of_whole (yields_oneExpression rfl) reliable ?_ read⟩
    exact fitting_of_fresh rfl rfl
  · exact fitting

theorem yields_report {α : Type} {Good : α → Prop} {reason : FieldReport} :
    (report reason : Reading α).Yields Good :=
  yields_faultAtLast

theorem yields_report_bind {α β : Type} {rest : α → Reading β} {Good : β → Prop}
    {reason : FieldReport} : (report reason >>= rest).Yields Good :=
  yields_report.bind fun _ (never : False) => never.elim

theorem yields_conversion (text : List Char) : (conversion text).Yields fun _ => True := by
  unfold conversion
  split
  · exact yields_report
  · split
    · exact yields_pure trivial
    · exact yields_report
  · exact yields_pure trivial

theorem yields_decoded (text : List Char) : (formatted.decoded text).Yields Piece.Fits := by
  unfold decoded
  split
  · exact yields_pure trivial
  · exact yields_faultAtLast

mutual

theorem yields_pieces : (fuel level : Nat) → (text : List Char) →
    (formatted.pieces fuel level text).Yields fun result => ∀ piece ∈ result.1, piece.Fits
  | 0, _, _ => by
    unfold pieces
    exact yields_pure (by simp)
  | fuel + 1, level, text => by
    unfold pieces
    dsimp only
    split
    · exact yields_report
    · exact (formatted.yields_decoded text).bind fun piece fits => yields_pure (by simpa using fits)
    · refine (formatted.yields_decoded _).bind fun piece fits => ?_
      refine (yields_pieces fuel level _).bind fun others fit => yields_pure ?_
      exact List.forall_mem_cons.mpr ⟨fits, fit⟩
    · refine (formatted.yields_decoded _).bind fun piece fits => ?_
      split
      · exact yields_pure (by simpa using fits)
      · refine (yields_field fuel level _).bind fun field isField => ?_
        refine (yields_pieces fuel level _).bind fun others fit => yields_pure ?_
        exact List.forall_mem_append.mpr ⟨List.forall_mem_cons.mpr ⟨fits, isField⟩, fit⟩

theorem yields_field : (fuel level : Nat) → (text : List Char) →
    (formatted.field fuel level text).Yields fun result => ∀ piece ∈ result.1, piece.Fits
  | 0, _, _ => by
    unfold field
    exact yields_pure (by simp)
  | fuel + 1, level, text => by
    unfold field
    refine .ite (fun _ => yields_report_bind) fun _ => ?_
    cases extent : fieldExtent 0 .none [] text with
    | error reason => exact yields_report
    | ok count =>
      refine .ite (fun _ => yields_report_bind) fun _ => ?_
      refine (formatted.yields_expression _ _).bind fun value isValue => ?_
      generalize shown (text.take count) (text.drop count) = revealed
      obtain ⟨revealed, rest⟩ := revealed
      refine .ite (fun _ => yields_report_bind) fun _ => ?_
      refine (yields_conversion _).skip fun letter => ?_
      obtain ⟨letter, behind⟩ := letter
      have closed : ∀ (format : Option SourceTree) (letter : Option Char),
          (∀ tree ∈ format, tree.Fits .expression) →
          ∀ piece ∈ [Piece.text (revealed.map Char.toNat),
            .field (tree formatted.place (.formattedValue letter)
              ((.value, value) :: optional .formatSpec format))], piece.Fits := by
        intro format letter isFormat
        simpa [Piece.Fits, isValue] using isFormat
      dsimp only
      split
      · exact yields_report_bind
      · refine (yields_pieces fuel _ _).bind fun result fit => ?_
        refine .ite (fun _ => yields_report_bind) fun _ => yields_pure_bind ?_
        refine .ite (fun _ => yields_report_bind) fun _ => yields_pure (closed _ _ ?_)
        simpa using formatted.fits_joined fit
      · refine yields_pure_bind (.ite (fun _ => yields_report_bind) fun _ => ?_)
        exact yields_pure (closed _ _ (by simp))

end

end Formatted

/-- The parts of one literal fit. -/
theorem yields_literalPieces (place : Position) (marked : Bool) (token : Token) :
    (literalPieces place marked token).Yields fun pieces => ∀ piece ∈ pieces, piece.Fits := by
  refine .ite (fun _ => ?_) fun _ => ?_
  · exact (Formatted.yields_pieces _ _ _ _).bind fun result fit => yields_pure fit
  · exact (Formatted.yields_decoded _ _).bind fun piece fits => yields_pure (by simpa using fits)

theorem yields_literalBytes (token : Token) : (literalBytes token).Yields fun _ => True := by
  unfold literalBytes
  dsimp only
  refine .ite (fun _ => yields_faultAtLast.bind fun _ (never : False) => never.elim) fun _ => ?_
  split
  · exact yields_pure trivial
  · exact yields_faultAtLast

theorem yields_literalSum (place : Position) (marked inBytes : Bool) (tokens : List Token) :
    (literalSum place marked inBytes tokens).Yields fun sum => ∀ piece ∈ sum.1, piece.Fits := by
  induction tokens with
  | nil => exact yields_pure (by simp)
  | cons token others ih =>
    have alike : (if (textLiteral token.spelling.toList).bytes = inBytes then pure ()
        else faultAtLast .mixedBytes : Reading Unit).Yields fun _ => True :=
      .ite (fun _ => yields_pure trivial) fun _ => yields_faultAtLast
    have summed : ∀ here : List Piece × List Nat, (∀ piece ∈ here.1, piece.Fits) →
        Yields ((if (textLiteral token.spelling.toList).bytes = inBytes then pure ()
            else faultAtLast .mixedBytes) >>= fun _ =>
          literalSum place marked inBytes others >>= fun sum =>
            pure (here.1 ++ sum.1, here.2 ++ sum.2)) fun sum => ∀ piece ∈ sum.1, piece.Fits :=
      fun here fit => alike.skip fun _ => ih.bind fun sum fit' =>
        yields_pure (List.forall_mem_append.mpr ⟨fit, fit'⟩)
    unfold literalSum
    dsimp only
    -- One literal is of bytes, or it has parts.
    refine .ite (fun _ => alike.skip fun _ => .ite (fun _ => ?_) fun _ => ?_)
      fun _ => .ite (fun _ => ?_) fun _ => ?_
    · exact (yields_literalBytes token).skip fun bytes => yields_pure_bind (summed _ (by simp))
    · exact (yields_literalPieces place marked token).bind fun pieces fit =>
        yields_pure_bind (summed _ fit)
    · exact (yields_literalBytes token).skip fun bytes => yields_pure_bind (summed _ (by simp))
    · exact (yields_literalPieces place marked token).bind fun pieces fit =>
        yields_pure_bind (summed _ fit)

theorem yields_texts : texts.Yields (Fits .expression) := by
  refine (yields_tokenThat _).several.skip fun tokens => ?_
  refine (yields_literalSum _ _ _ tokens).bind fun sum fit => ?_
  refine .ite (fun _ => yields_pure (by simp)) fun _ => .ite (fun _ => ?_) fun _ => ?_
  · exact yields_pure (Formatted.fits_joined _ fit)
  · exact yields_pure (by simp)

end Grammar

end IfChains
