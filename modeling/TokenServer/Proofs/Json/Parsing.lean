import TokenServer.Proofs.Json.Lexing

/-! Reading printed values. The walk over the tokens of a document hands over the document, whatever is still open and
whatever follows, so that a printed value is read as its document. -/

namespace TokenServer.Json.Document

open State

theorem run_first (document : Document) (stack : List Frame) (more : List Token) :
    run (.needsItemOrEnd stack) (document.tokens ++ more) =
      run (.needsValue (.array [] :: stack)) (document.tokens ++ more) := by
  cases document with
  | array items => cases items <;> rfl
  | object members =>
    rcases members with _ | ⟨⟨key, value⟩, members⟩ <;> rfl
  | _ => rfl

mutual

theorem run_tokens : (document : Document) → (stack : List Frame) → (more : List Token) →
    run (.needsValue stack) (document.tokens ++ more) = run (.give document stack) more
  | .null, _, _ => rfl
  | .bool _, _, _ => rfl
  | .number _, _, _ => rfl
  | .string _, _, _ => rfl
  | .array [], _, _ => rfl
  | .array (item :: items), stack, more => by
    change run (.needsItemOrEnd stack) (item.tokens ++ itemTokens items ++ more) = _
    rw [List.append_assoc, run_first, run_tokens item]
    exact run_itemTokens items [item] stack more
  | .object [], _, _ => rfl
  | .object ((key, value) :: members), stack, more => by
    change run (.needsValue (.object [] key :: stack)) (value.tokens ++ memberTokens members ++ more) = _
    rw [List.append_assoc, run_tokens value]
    exact run_memberTokens members [(key, value)] stack more

theorem run_itemTokens : (items read : List Document) → (stack : List Frame) → (more : List Token) →
    run (.afterItem read stack) (itemTokens items ++ more) = run (.give (.array (read.reverse ++ items)) stack) more
  | [], read, stack, more => by
    rw [List.append_nil]
    rfl
  | item :: items, read, stack, more => by
    change run (.needsValue (.array read :: stack)) (item.tokens ++ itemTokens items ++ more) = _
    rw [List.append_assoc, run_tokens item]
    have rest := run_itemTokens items (item :: read) stack more
    rw [List.reverse_cons, List.append_assoc] at rest
    exact rest

theorem run_memberTokens : (members read : List (Option String × Document)) → (stack : List Frame) →
    (more : List Token) → run (.afterMember read stack) (memberTokens members ++ more) =
      run (.give (.object (read.reverse ++ members)) stack) more
  | [], read, stack, more => by
    rw [List.append_nil]
    rfl
  | (key, value) :: members, read, stack, more => by
    change run (.needsValue (.object read key :: stack)) (value.tokens ++ memberTokens members ++ more) = _
    rw [List.append_assoc, run_tokens value]
    have rest := run_memberTokens members ((key, value) :: read) stack more
    rw [List.reverse_cons, List.append_assoc] at rest
    exact rest

end

/-- A printed value is read as its document. -/
theorem parse?_print {value : Json} (free : value.FloatFree) : parse? value.print = some value.document := by
  have scanned : Token.scan .between value.print = some value.document.tokens := by
    simpa [Token.scan] using Token.scan_print value free [] Token.stops_nil
  have read : run (.needsValue []) value.document.tokens = some (.complete value.document) := by
    have walked := run_tokens value.document [] []
    rw [List.append_nil] at walked
    exact walked
  rw [parse?, scanned]
  change (run (.needsValue []) value.document.tokens).bind _ = _
  rw [read]
  rfl

theorem parse?_render {value : Json} (free : value.FloatFree) :
    parse? value.render.toList = some value.document := by
  rw [render, String.toList_ofList]
  exact parse?_print free

end TokenServer.Json.Document
