import IosAncs.Foundation.Fragments
import IosAncs.Protocol.DataParser

/-!
Cuts of the Data Source. Both parsers keep all that they know in their state, so a
response may come in any pieces.
-/
open AncsProtocol Fragments

namespace DataParsing
variable {limits : AncsLimits}

theorem feed_open {d : DataParsing limits}
    (open_ : d.parser.state ≠ .complete ∧ d.parser.state ≠ .error) (bytes : List UInt8) :
    d.feed bytes = d.feedBytes bytes := by
  unfold feed
  split
  · next state => exact absurd state open_.2
  · next state => exact absurd state open_.1
  · rfl

theorem feed_failed {d : DataParsing limits} (state : d.parser.state = .error)
    (bytes : List UInt8) : d.feed bytes = (d, .error) := by
  simp only [feed, state]

theorem feed_completed {d : DataParsing limits} (state : d.parser.state = .complete)
    (bytes : List UInt8) :
    d.feed bytes = if bytes = [] then (d, .complete) else d.fail errSequence := by
  simp only [feed, state]

theorem feed_cons {d : DataParsing limits} (byte : UInt8) (rest : List UInt8) :
    d.feed (byte :: rest) = (d.feed [byte]).1.feed rest := by
  by_cases error : d.parser.state = .error
  · rw [feed_failed error, feed_failed error, feed_failed error]
  · by_cases complete : d.parser.state = .complete
    · rw [feed_completed complete, feed_completed complete, if_neg (List.cons_ne_nil _ _),
        if_neg (List.cons_ne_nil _ _)]
      exact (feed_failed rfl rest).symm
    · have one := answers_feedByte d byte ⟨complete, error⟩
      rw [feed_open ⟨complete, error⟩, feed_open ⟨complete, error⟩]
      rcases found : d.feedByte byte with ⟨next, result⟩
      rw [found] at one
      cases result with
      | more =>
        simp only [feedBytes, found]
        exact (feed_open one rest).symm
      | complete =>
        simp only [feedBytes, found, ↓reduceIte]
        exact (feed_completed one.1 rest).symm
      | error =>
        simp only [feedBytes, found]
        exact (feed_failed one.1 rest).symm

theorem element_wise : ElementWise (@feed limits) where
  nil d := by
    unfold feed
    split <;> rfl
  cons _ := feed_cons

end DataParsing

namespace AppDataParsing
variable {limits : AncsLimits}

def Tells (answer : AppDataParsing limits × AncsParserResult) : Prop :=
  match answer.2 with
  | .more => answer.1.parser.state ≠ .complete ∧ answer.1.parser.state ≠ .error
  | .complete => answer.1.parser.state = .complete
  | .error => answer.1.parser.state = .error

theorem tells_more {d : AppDataParsing limits} {state : AppParserState}
    (same : d.parser.state = state) (open_ : state ≠ .complete ∧ state ≠ .error) :
    Tells (d, .more) := by
  unfold Tells
  rw [same]
  exact open_

theorem tells_fail (d : AppDataParsing limits) (errorCode : Int) : Tells (d.fail errorCode) := rfl

theorem tells_finishAppAttribute (d : AppDataParsing limits) : Tells d.finishAppAttribute := by
  unfold finishAppAttribute
  split
  · exact tells_fail d _
  · exact rfl

theorem tells_feedByte (d : AppDataParsing limits) (byte : UInt8)
    (open_ : d.parser.state ≠ .complete ∧ d.parser.state ≠ .error) : Tells (d.feedByte byte) := by
  unfold feedByte
  split
  · unfold command
    split
    · exact tells_fail d _
    · exact ⟨nofun, nofun⟩
  · next state =>
    unfold appId
    split
    · split
      · exact tells_fail d _
      · exact ⟨nofun, nofun⟩
    · split
      · exact tells_fail d _
      · exact tells_more state (by decide)
  · unfold attributeId
    split
    · exact tells_fail d _
    · exact ⟨nofun, nofun⟩
  · next state =>
    unfold attributeLength
    dsimp only
    split
    · exact tells_more state (by decide)
    · split
      · exact tells_finishAppAttribute _
      · exact ⟨nofun, nofun⟩
  · next state =>
    unfold attributeValue
    dsimp only
    split
    · exact tells_finishAppAttribute _
    · exact tells_more state (by decide)
  · next state => exact absurd state open_.1
  · next state => exact absurd state open_.2

theorem feed_open {d : AppDataParsing limits}
    (open_ : d.parser.state ≠ .complete ∧ d.parser.state ≠ .error) (bytes : List UInt8) :
    d.feed bytes = d.feedBytes bytes := by
  unfold feed
  split
  · next state => exact absurd state open_.2
  · next state => exact absurd state open_.1
  · rfl

theorem feed_failed {d : AppDataParsing limits} (state : d.parser.state = .error)
    (bytes : List UInt8) : d.feed bytes = (d, .error) := by
  simp only [feed, state]

theorem feed_completed {d : AppDataParsing limits} (state : d.parser.state = .complete)
    (bytes : List UInt8) :
    d.feed bytes = if bytes = [] then (d, .complete) else d.fail errSequence := by
  simp only [feed, state]

theorem feed_cons {d : AppDataParsing limits} (byte : UInt8) (rest : List UInt8) :
    d.feed (byte :: rest) = (d.feed [byte]).1.feed rest := by
  by_cases error : d.parser.state = .error
  · rw [feed_failed error, feed_failed error, feed_failed error]
  · by_cases complete : d.parser.state = .complete
    · rw [feed_completed complete, feed_completed complete, if_neg (List.cons_ne_nil _ _),
        if_neg (List.cons_ne_nil _ _)]
      exact (feed_failed rfl rest).symm
    · have one := tells_feedByte d byte ⟨complete, error⟩
      rw [feed_open ⟨complete, error⟩, feed_open ⟨complete, error⟩]
      rcases found : d.feedByte byte with ⟨next, result⟩
      rw [found] at one
      cases result with
      | more =>
        simp only [feedBytes, found]
        exact (feed_open one rest).symm
      | complete =>
        simp only [feedBytes, found, ↓reduceIte]
        exact (feed_completed one rest).symm
      | error =>
        simp only [feedBytes, found]
        exact (feed_failed one rest).symm

theorem element_wise : ElementWise (@feed limits) where
  nil d := by
    unfold feed
    split <;> rfl
  cons _ := feed_cons

end AppDataParsing

namespace AncsProtocol
variable {limits : AncsLimits}

/-- From every state of a parser, the fragments of a response leave the state, the
    notification and the last answer that the whole response leaves. -/
theorem fragments_as_whole (first : List UInt8) (rest : List (List UInt8)) :
    (∀ d : DataParsing limits,
        feedAll DataParsing.feed d first rest = d.feed (first ++ rest.flatten)) ∧
      ∀ d : AppDataParsing limits,
        feedAll AppDataParsing.feed d first rest = d.feed (first ++ rest.flatten) := by
  constructor
  · intro d
    exact feed_all DataParsing.element_wise d first rest
  · intro d
    exact feed_all AppDataParsing.element_wise d first rest

end AncsProtocol
