import SkipChecks.Proofs.Json.Tokens

/-!
# Values and their tokens

Every JSON value has a list of tokens, and reading that list gives the value back, whatever is open
around it.
-/

namespace SkipChecks.Json

mutual

/-- The tokens of a value. -/
def tokens : Json → List Token
  | null => [.null]
  | bool value => [.bool value]
  | natural value => [.natural value]
  | number => [.number]
  | string content => [.string content]
  | array items => .openArray :: itemTokens items ++ [.closeArray]
  | object members => .openObject :: memberTokens members ++ [.closeObject]

/-- The tokens of the items of an array, with commas between them. -/
def itemTokens : List Json → List Token
  | [] => []
  | [item] => tokens item
  | item :: next :: items => tokens item ++ .comma :: itemTokens (next :: items)

/-- The tokens of the members of an object, with commas between them. -/
def memberTokens : List (Option Text × Json) → List Token
  | [] => []
  | [(key, value)] => .string key :: .colon :: tokens value
  | (key, value) :: next :: members =>
    .string key :: .colon :: tokens value ++ .comma :: memberTokens (next :: members)

end

theorem itemTokens_eq (items : List Json) :
    itemTokens items = [Token.comma].intercalate (items.map tokens) := by
  induction items with
  | nil => rfl
  | cons item items ih =>
      cases items with
      | nil => simp [itemTokens]
      | cons next items =>
          rw [itemTokens, ih]
          simp only [List.map_cons, List.intercalate_cons_cons, List.append_assoc,
            List.singleton_append]

/-- The tokens of a member. -/
def memberToken (member : Option Text × Json) : List Token :=
  .string member.1 :: .colon :: tokens member.2

theorem memberTokens_eq (members : List (Option Text × Json)) :
    memberTokens members = [Token.comma].intercalate (members.map memberToken) := by
  induction members with
  | nil => rfl
  | cons member members ih =>
      cases members with
      | nil => simp [memberTokens, memberToken]
      | cons next members =>
          rw [memberTokens, ih]
          simp only [memberToken, List.map_cons, List.intercalate_cons_cons, List.append_assoc,
            List.cons_append, List.nil_append]

/-- A value can begin with no token that closes an array. -/
theorem exists_tokens_eq_cons (value : Json) :
    ∃ first rest, tokens value = first :: rest ∧ first ≠ .closeArray := by
  cases value <;> simp [tokens]

/-- The first item of an array is read like any other value in it. -/
theorem foldlM_firstItem (value : Json) (more : List Token) (stack : List Frame) :
    (tokens value ++ more).foldlM step (.firstItem stack) =
      (tokens value ++ more).foldlM step (.value (.array [] :: stack)) := by
  obtain ⟨first, rest, htokens, hfirst⟩ := exists_tokens_eq_cons value
  rw [htokens, List.cons_append, List.foldlM_cons, List.foldlM_cons]
  cases first <;> first | rfl | exact absurd rfl hfirst

/-- The first key of an object is read like any other key in it. -/
theorem foldlM_firstKey {members : List (Option Text × Json)} (hne : members ≠ [])
    (more : List Token) (stack : List Frame) :
    (memberTokens members ++ more).foldlM step (.firstKey stack) =
      (memberTokens members ++ more).foldlM step (.key stack []) := by
  match members, hne with
  | [(_, _)], _ => rfl
  | (_, _) :: _ :: _, _ => rfl

mutual

/-- Reading the tokens of a value comes to the value. -/
theorem foldlM_tokens : ∀ (value : Json) (stack : List Frame),
    (tokens value).foldlM step (.value stack) = some (.after stack value)
  | null, _ => rfl
  | bool _, _ => rfl
  | natural _, _ => rfl
  | number, _ => rfl
  | string _, _ => rfl
  | array [], _ => rfl
  | array (item :: items), stack => by
      -- behind the bracket the array could end, unlike behind a comma
      have hitems := foldlM_items (item :: items) [] stack (by simp)
      rw [tokens, List.cons_append, List.foldlM_cons]
      obtain ⟨more, hmore⟩ : ∃ more,
          itemTokens (item :: items) ++ [Token.closeArray] = tokens item ++ more := by
        cases items <;> simp [itemTokens]
      rw [hmore] at hitems ⊢
      exact (foldlM_firstItem item more stack).trans hitems
  | object [], _ => rfl
  | object (member :: members), stack => by
      have hmembers := foldlM_members (member :: members) [] stack (by simp)
      rw [tokens, List.cons_append, List.foldlM_cons]
      exact (foldlM_firstKey (by simp) _ stack).trans hmembers

/-- Items are read behind those that have been read before. -/
theorem foldlM_items : ∀ (items before : List Json) (stack : List Frame), items ≠ [] →
    (itemTokens items ++ [Token.closeArray]).foldlM step (.value (.array before :: stack)) =
      some (.after stack (array (before ++ items)))
  | [], _, _, hne => absurd rfl hne
  | [item], before, stack, _ => by
      rw [itemTokens, List.foldlM_append, foldlM_tokens item]
      rfl
  | item :: next :: items, before, stack, _ => by
      have hothers := foldlM_items (next :: items) (before ++ [item]) stack (by simp)
      rw [List.append_assoc] at hothers
      rw [itemTokens, List.append_assoc, List.foldlM_append, foldlM_tokens item]
      exact hothers

/-- Members are read behind those that have been read before. -/
theorem foldlM_members : ∀ (members before : List (Option Text × Json)) (stack : List Frame),
    members ≠ [] →
    (memberTokens members ++ [Token.closeObject]).foldlM step (.key stack before) =
      some (.after stack (object (before ++ members)))
  | [], _, _, hne => absurd rfl hne
  | [(key, value)], before, stack, _ => by
      have hvalue := foldlM_tokens value (.object before key :: stack)
      rw [memberTokens, List.cons_append, List.cons_append, List.foldlM_cons]
      change ((tokens value ++ [Token.closeObject]).foldlM step
        (.value (.object before key :: stack))) = _
      rw [List.foldlM_append, hvalue]
      rfl
  | (key, value) :: next :: members, before, stack, _ => by
      have hvalue := foldlM_tokens value (.object before key :: stack)
      have hothers := foldlM_members (next :: members) (before ++ [(key, value)]) stack (by simp)
      rw [List.append_assoc] at hothers
      rw [memberTokens, List.append_assoc, List.cons_append, List.cons_append, List.foldlM_cons]
      change ((tokens value ++ (Token.comma :: memberTokens (next :: members) ++
        [Token.closeObject])).foldlM step (.value (.object before key :: stack))) = _
      rw [List.foldlM_append, hvalue]
      exact hothers

end

theorem ofTokens?_tokens (value : Json) : ofTokens? (tokens value) = some value := by
  rw [ofTokens?, foldlM_tokens value []]

/-- A text that is read as the tokens of a value stands for the value. -/
theorem ofText?_of_reads {s : Text} {value : Json}
    (h : Token.Reads .between s (tokens value) .between) : ofText? s = some value := by
  rw [ofText?, h.ofText?_eq]
  exact ofTokens?_tokens value

end SkipChecks.Json
