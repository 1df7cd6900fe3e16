import CanaryMining.Lib.Text
import Mathlib.Data.List.Perm.Basic

/-!
# Responses of the node's RPC server

A response is one JSON object, with a `result`, an `error` and whatever else the server
adds.  It is read member by member: the names are borrowed from the response, the text of
the result is kept as it is, and the error is read as a value.

A name with an escape sequence cannot be borrowed, and an error may be too deep or too large
to be read as a value.  Either makes the whole response unexpected, so
`classifiesByContent_iff` says when responses are told apart by their content only.

## Main definitions

* `Member` — a member of a JSON object, as it is spelled.
* `visitMap`, `decodeRpcResponse` — the reader of the source.
* `ClassifiesByContent` — the outcome is the one that the error and the result call for.
* `ReadsAll` — the reader gets through all members.
* `LayoutFree` — neither order nor other members matter to the outcome.
-/

namespace CanaryMining

namespace BitcoinCoreRpc

/-! ## JSON objects -/

/-- A character of a JSON string, or an escape sequence and what it stands for.  A surrogate
without its other half stands for no character. -/
inductive KeyPiece
  | char (c : Char)
  | escape (c : Option Char)
  deriving DecidableEq, Repr

/-- The character that a piece stands for. -/
def KeyPiece.denotes : KeyPiece → Option Char
  | .char c => some c
  | .escape c => c

/-- The character that a piece is. -/
def KeyPiece.borrow : KeyPiece → Option Char
  | .char c => some c
  | .escape _ => none

/-- A member of a JSON object: its name as it is spelled, and the text of its value. -/
structure Member where
  key : List KeyPiece
  value : Text
  deriving DecidableEq, Repr

namespace Member

/-- The name that is meant. -/
def name (m : Member) : Option Text := m.key.mapM KeyPiece.denotes

/-- The name as a slice of the response, which it is if it has no escape sequence. -/
def borrowedKey (m : Member) : Option Text := m.key.mapM KeyPiece.borrow

/-- A member named without escape sequences. -/
def plain (name value : String) : Member := ⟨name.toList.map .char, value.toList⟩

theorem name_of_borrowedKey {m : Member} {key : Text} (h : m.borrowedKey = some key) :
    m.name = some key := by
  unfold borrowedKey at h
  unfold name
  generalize m.key = pieces at h ⊢
  induction pieces generalizing key with
  | nil => exact h
  | cons piece pieces ih =>
    rw [List.mapM_cons, Option.bind_eq_bind, Option.bind_eq_some_iff] at h ⊢
    obtain ⟨c, hc, h⟩ := h
    rw [Option.bind_eq_bind, Option.bind_eq_some_iff] at h
    obtain ⟨rest, hrest, h⟩ := h
    have hdenotes : piece.denotes = some c := by
      cases piece with
      | char _ => exact hc
      | escape _ => cases hc
    refine ⟨c, hdenotes, ?_⟩
    rw [ih hrest]
    exact h

end Member

/-- The text of `null`. -/
def null : Text := "null".toList

/-- The text of the value of a member; the last one's, if there are several of this name. -/
def memberValue (name : String) (members : List Member) : Option Text :=
  ((members.filter (·.name = some name.toList)).getLast?).map (·.value)

theorem memberValue_cons (name : String) (m : Member) (members : List Member) :
    memberValue name (m :: members) =
      (memberValue name members).or (if m.name = some name.toList then some m.value else none) := by
  unfold memberValue
  by_cases hname : m.name = some name.toList
  · rw [List.filter_cons_of_pos (by simpa using hname), if_pos hname, List.getLast?_cons]
    cases (members.filter (·.name = some name.toList)).getLast? <;> rfl
  · rw [List.filter_cons_of_neg (by simpa using hname), if_neg hname, Option.or_none]

/-- A name is that of at most one member. -/
def AtMostOnce (name : String) (members : List Member) : Prop :=
  (members.filter (·.name = some name.toList)).length ≤ 1

/-- The order of the members does not matter for a name that comes at most once. -/
theorem memberValue_perm {name : String} {members members' : List Member}
    (h : members.Perm members') (honce : AtMostOnce name members) :
    memberValue name members = memberValue name members' := by
  have hperm := h.filter (·.name = some name.toList)
  have heq : members.filter (·.name = some name.toList) =
      members'.filter (·.name = some name.toList) := by
    unfold AtMostOnce at honce
    generalize members.filter (·.name = some name.toList) = named at hperm honce
    match named, honce with
    | [], _ => exact (List.nil_perm.1 hperm).symm
    | [m], _ => exact List.singleton_perm.1 hperm
  rw [memberValue, heq, memberValue]

/-- Members of other names do not matter. -/
theorem memberValue_filter {name : String} {members : List Member} {kept : Member → Bool}
    (h : ∀ m ∈ members, m.name = some name.toList → kept m = true) :
    memberValue name (members.filter kept) = memberValue name members := by
  have heq : (members.filter kept).filter (·.name = some name.toList) =
      members.filter (·.name = some name.toList) := by
    rw [List.filter_filter]
    refine List.filter_congr fun m hm => ?_
    by_cases hname : m.name = some name.toList
    · simp [hname, h m hm hname]
    · simp [hname]
  rw [memberValue, heq, memberValue]

/-! ## The reader -/

/-- `BitcoinCoreRpcError`, the errors of a response. -/
inductive RpcError (Value : Type)
  | rpc (method : Text) (error : Value)
  | unexpectedResult (method : Text)
  | missingResult (method : Text)
  deriving DecidableEq

/-- `RpcResponse`. -/
structure RpcResponse (Value : Type) where
  result : Option Text
  resultPresent : Bool
  error : Option Value

variable {Value T : Type} (toValue : Text → Option Value) (decode : Text → Option T)

/-- `next_value` at the type `Option<Value>`: an option of a value, where it can be read. -/
def nextOption (value : Text) : Option (Option Value) :=
  if value = null then some none else (toValue value).map some

/-- `visit_map`, with the state of its loop.  A member's text is kept or skipped whatever it
is. -/
def visitMap : List Member → RpcResponse Value → Option (RpcResponse Value)
  | [], response => some response
  | m :: members, response =>
    match m.borrowedKey with
    | none => none
    | some key =>
      if key = "result".toList then
        visitMap members { response with resultPresent := true, result := some m.value }
      else if key = "error".toList then
        match nextOption toValue m.value with
        | none => none
        | some error => visitMap members { response with error := error }
      else visitMap members response

/-- `decode_rpc_response`, or `none` where it panics.  `decode` reads a text at the type `T`. -/
def decodeRpcResponse (method : Text) (body : List Member) :
    Option (Except (RpcError Value) T) :=
  match visitMap toValue body ⟨none, false, none⟩ with
  | none => some (.error (.unexpectedResult method))
  | some response =>
    match response.error with
    | some error => some (.error (.rpc method error))
    | none =>
      if response.resultPresent = false then some (.error (.missingResult method))
      else
        match response.result with
        | none => none
        | some result =>
          match decode result with
          | some value => some (.ok value)
          | none => some (.error (.unexpectedResult method))

/-- The reader gets through all members: no name has an escape sequence, and what is sent as
an error can be read. -/
def ReadsAll (body : List Member) : Prop :=
  ∀ m ∈ body, m.borrowedKey.isSome ∧
    (m.name = some "error".toList → (nextOption toValue m.value).isSome)

/-- The state of the loop after all members. -/
structure Visited (body : List Member) (before after : RpcResponse Value) : Prop where
  result : after.result = (memberValue "result" body).or before.result
  resultPresent : after.resultPresent =
    ((memberValue "result" body).isSome || before.resultPresent)
  error : some after.error = match memberValue "error" body with
    | none => some before.error
    | some value => nextOption toValue value

/-- A member of a name that can be read is the one it is meant to be. -/
theorem readsAll_cons {m : Member} {body : List Member} {key : Text}
    (hkey : m.borrowedKey = some key) :
    ReadsAll toValue (m :: body) ↔
      (key = "error".toList → (nextOption toValue m.value).isSome) ∧ ReadsAll toValue body := by
  simp only [ReadsAll, List.forall_mem_cons, Member.name_of_borrowedKey hkey, hkey,
    Option.isSome_some, true_and, Option.some.injEq]

/-- A member sets what its name says, unless a later one sets it again. -/
theorem Visited.cons {m : Member} {body : List Member} {key : Text}
    {before middle after : RpcResponse Value} (hkey : m.name = some key)
    (h : Visited toValue body middle after)
    (hresult : middle.result = if key = "result".toList then some m.value else before.result)
    (hpresent : middle.resultPresent = (decide (key = "result".toList) || before.resultPresent))
    (herror : some middle.error =
      if key = "error".toList then nextOption toValue m.value else some before.error) :
    Visited toValue (m :: body) before after := by
  have hresultValue := memberValue_cons "result" m body
  have herrorValue := memberValue_cons "error" m body
  rw [hkey] at hresultValue herrorValue
  simp only [Option.some.injEq] at hresultValue herrorValue
  constructor
  · rw [h.result, hresult, hresultValue, Option.or_assoc]
    split <;> rfl
  · rw [h.resultPresent, hpresent, hresultValue, Option.isSome_or, Bool.or_assoc]
    by_cases hname : key = "result".toList
    · rw [if_pos hname, decide_eq_true hname]
      rfl
    · rw [if_neg hname, decide_eq_false hname]
      rfl
  · rw [h.error, herrorValue]
    cases memberValue "error" body with
    | some value => rfl
    | none =>
      rw [Option.none_or]
      dsimp only
      rw [herror]
      split <;> rfl

/-- **The loop reads all members**, or the response is unexpected. -/
theorem visitMap_of_readsAll {body : List Member} (h : ReadsAll toValue body)
    (before : RpcResponse Value) :
    ∃ after, visitMap toValue body before = some after ∧ Visited toValue body before after := by
  induction body generalizing before with
  | nil => exact ⟨before, rfl, ⟨rfl, rfl, rfl⟩⟩
  | cons m body ih =>
    obtain ⟨key, hkey⟩ := Option.isSome_iff_exists.1 (h m List.mem_cons_self).1
    obtain ⟨herror, hrest⟩ := (readsAll_cons toValue hkey).1 h
    have hname := Member.name_of_borrowedKey hkey
    rw [visitMap, hkey]
    dsimp only
    by_cases hresult : key = "result".toList
    · have hne : key ≠ "error".toList := by
        rw [hresult]
        decide
      obtain ⟨after, hafter, hvisited⟩ :=
        ih hrest { before with resultPresent := true, result := some m.value }
      rw [if_pos hresult]
      refine ⟨after, hafter, hvisited.cons toValue hname ?_ ?_ ?_⟩
      · rw [if_pos hresult]
      · rw [decide_eq_true hresult, Bool.true_or]
      · rw [if_neg hne]
    · rw [if_neg hresult]
      by_cases hiserror : key = "error".toList
      · obtain ⟨error, hread⟩ := Option.isSome_iff_exists.1 (herror hiserror)
        obtain ⟨after, hafter, hvisited⟩ := ih hrest { before with error := error }
        rw [if_pos hiserror, hread]
        refine ⟨after, hafter, hvisited.cons toValue hname ?_ ?_ ?_⟩
        · rw [if_neg hresult]
        · rw [decide_eq_false hresult, Bool.false_or]
        · rw [if_pos hiserror, hread]
      · obtain ⟨after, hafter, hvisited⟩ := ih hrest before
        rw [if_neg hiserror]
        refine ⟨after, hafter, hvisited.cons toValue hname ?_ ?_ ?_⟩
        · rw [if_neg hresult]
        · rw [decide_eq_false hresult, Bool.false_or]
        · rw [if_neg hiserror]

theorem visitMap_of_not_readsAll {body : List Member} (h : ¬ ReadsAll toValue body)
    (before : RpcResponse Value) : visitMap toValue body before = none := by
  induction body generalizing before with
  | nil => exact absurd (fun m hm => absurd hm List.not_mem_nil) h
  | cons m body ih =>
    rw [visitMap]
    cases hkey : m.borrowedKey with
    | none => rfl
    | some key =>
      rw [readsAll_cons toValue hkey, not_and] at h
      dsimp only
      split
      · rename_i hresult
        refine ih (h fun herror => ?_) _
        rw [hresult] at herror
        exact absurd herror (by decide)
      · split
        · cases hread : nextOption toValue m.value with
          | none => rfl
          | some error =>
            refine ih (h fun _ => ?_) _
            rw [hread]
            rfl
        · rename_i herror
          exact ih (h fun hiserror => absurd hiserror herror) _

/-! ## Telling responses apart -/

/-- An error is present, and it is not null. -/
def ErrorPresent (body : List Member) : Prop :=
  ∃ value, memberValue "error" body = some value ∧ value ≠ null

/-- **Classified by content.**  A response with an error is an RPC error, one without a result
is missing it, and of the others those are accepted whose result can be read; there is no
panic. -/
structure ClassifiesByContent (method : Text) (body : List Member) : Prop where
  rpc : (∃ error, decodeRpcResponse toValue decode method body =
    some (.error (.rpc method error))) ↔ ErrorPresent body
  missingResult : decodeRpcResponse toValue decode method body =
    some (.error (.missingResult method)) ↔
      ¬ ErrorPresent body ∧ memberValue "result" body = none
  ok : ∀ value, decodeRpcResponse toValue decode method body = some (.ok value) ↔
    ¬ ErrorPresent body ∧
      ∃ result, memberValue "result" body = some result ∧ decode result = some value
  unexpectedResult : decodeRpcResponse toValue decode method body =
    some (.error (.unexpectedResult method)) ↔
      ¬ ErrorPresent body ∧
        ∃ result, memberValue "result" body = some result ∧ decode result = none
  returns : decodeRpcResponse toValue decode method body ≠ none

/-- The error of a response, as far as it can be read. -/
def readError (body : List Member) : Option Value :=
  (memberValue "error" body).bind fun value => (nextOption toValue value).join

/-- The outcome that the error and the result of a response call for. -/
def contentOutcome (method : Text) (body : List Member) : Option (Except (RpcError Value) T) :=
  match readError toValue body with
  | some error => some (.error (.rpc method error))
  | none =>
    match memberValue "result" body with
    | none => some (.error (.missingResult method))
    | some result =>
      match decode result with
      | some value => some (.ok value)
      | none => some (.error (.unexpectedResult method))

theorem Visited.error_eq {body : List Member} {before after : RpcResponse Value}
    (h : Visited toValue body before after) (hbefore : before.error = none) :
    after.error = readError toValue body := by
  have herror := h.error
  unfold readError
  cases hvalue : memberValue "error" body with
  | none =>
    rw [hvalue, hbefore] at herror
    exact Option.some.inj herror
  | some value =>
    rw [hvalue] at herror
    dsimp only at herror
    rw [Option.bind_some, ← herror]
    rfl

/-- **A response that is read** has the outcome its content calls for. -/
theorem decodeRpcResponse_of_readsAll {body : List Member} (h : ReadsAll toValue body)
    (method : Text) :
    decodeRpcResponse toValue decode method body = contentOutcome toValue decode method body := by
  obtain ⟨after, hafter, hvisited⟩ := visitMap_of_readsAll toValue h ⟨none, false, none⟩
  have hresult : after.result = memberValue "result" body := by
    rw [hvisited.result, Option.or_none]
  have hpresent : after.resultPresent = (memberValue "result" body).isSome := by
    rw [hvisited.resultPresent, Bool.or_false]
  have herror := hvisited.error_eq toValue rfl
  unfold decodeRpcResponse contentOutcome
  rw [hafter]
  dsimp only
  rw [hresult, hpresent, herror]
  cases readError toValue body with
  | some error => rfl
  | none =>
    cases memberValue "result" body with
    | none => rfl
    | some result => rfl

/-- One that is not read is unexpected. -/
theorem decodeRpcResponse_of_not_readsAll {body : List Member} (h : ¬ ReadsAll toValue body)
    (method : Text) :
    decodeRpcResponse toValue decode method body = some (.error (.unexpectedResult method)) := by
  rw [decodeRpcResponse, visitMap_of_not_readsAll toValue h]

/-- Where all is read, there is an error to read exactly if one is present. -/
theorem readError_isSome_iff {body : List Member} (h : ReadsAll toValue body) :
    (readError toValue body).isSome ↔ ErrorPresent body := by
  unfold readError ErrorPresent
  cases hvalue : memberValue "error" body with
  | none => simp
  | some value =>
    rw [memberValue, Option.map_eq_some_iff] at hvalue
    obtain ⟨m, hm, hvalue⟩ := hvalue
    obtain ⟨hmem, hname⟩ := List.mem_filter.1 (List.mem_of_getLast? hm)
    have hread := (h m hmem).2 (of_decide_eq_true hname)
    rw [hvalue] at hread
    simp only [Option.bind_some, Option.some.injEq, exists_eq_left']
    unfold nextOption at hread ⊢
    split
    · rename_i hnull
      simp [hnull]
    · rename_i hnull
      rw [if_neg hnull, Option.isSome_map] at hread
      obtain ⟨error, herror⟩ := Option.isSome_iff_exists.1 hread
      simp [hnull, herror]

theorem classifiesByContent_of_readsAll {body : List Member} (h : ReadsAll toValue body)
    (method : Text) : ClassifiesByContent toValue decode method body := by
  have hpresent := readError_isSome_iff toValue h
  have houtcome := decodeRpcResponse_of_readsAll toValue decode h method
  unfold contentOutcome at houtcome
  cases herror : readError toValue body with
  | some error =>
    have hyes : ErrorPresent body := hpresent.1 (by rw [herror]; rfl)
    rw [herror] at houtcome
    constructor
    case rpc => exact iff_of_true ⟨error, houtcome⟩ hyes
    all_goals rw [houtcome]; simp [hyes]
  | none =>
    have hno : ¬ ErrorPresent body := fun hyes => by
      have hsome := hpresent.2 hyes
      rw [herror] at hsome
      cases hsome
    rw [herror] at houtcome
    cases hresult : memberValue "result" body with
    | none =>
      rw [hresult] at houtcome
      constructor <;> rw [houtcome] <;> simp [hno, hresult]
    | some result =>
      rw [hresult] at houtcome
      cases hdecode : decode result with
      | none =>
        simp only [hdecode] at houtcome
        constructor <;> rw [houtcome] <;> simp [hno, hresult, hdecode]
      | some value =>
        simp only [hdecode] at houtcome
        constructor <;> rw [houtcome] <;> simp [hno, hresult, hdecode]

/-- Responses that are read have the same outcome if they agree in error and result. -/
theorem decodeRpcResponse_congr {body body' : List Member} (h : ReadsAll toValue body)
    (h' : ReadsAll toValue body') (herror : memberValue "error" body' = memberValue "error" body)
    (hresult : memberValue "result" body' = memberValue "result" body) (method : Text) :
    decodeRpcResponse toValue decode method body' =
      decodeRpcResponse toValue decode method body := by
  rw [decodeRpcResponse_of_readsAll toValue decode h,
    decodeRpcResponse_of_readsAll toValue decode h', contentOutcome, contentOutcome, readError,
    readError, herror, hresult]

/-- **The layout does not matter**: neither the order of the members, nor whether there are
members besides error and result. -/
structure LayoutFree (method : Text) (body : List Member) : Prop where
  reordered : ∀ body', body.Perm body' →
    decodeRpcResponse toValue decode method body' = decodeRpcResponse toValue decode method body
  trimmed : ∀ kept : Member → Bool,
    (∀ m ∈ body, m.name = some "error".toList ∨ m.name = some "result".toList → kept m = true) →
      decodeRpcResponse toValue decode method (body.filter kept) =
        decodeRpcResponse toValue decode method body

theorem layoutFree_of_readsAll {body : List Member} (h : ReadsAll toValue body)
    (herror : AtMostOnce "error" body) (hresult : AtMostOnce "result" body) (method : Text) :
    LayoutFree toValue decode method body where
  reordered := by
    intro body' hperm
    have h' : ReadsAll toValue body' := fun m hm => h m (hperm.mem_iff.2 hm)
    exact decodeRpcResponse_congr toValue decode h h' (memberValue_perm hperm herror).symm
      (memberValue_perm hperm hresult).symm method
  trimmed := by
    intro kept hkept
    have h' : ReadsAll toValue (body.filter kept) := fun m hm => h m (List.mem_filter.1 hm).1
    exact decodeRpcResponse_congr toValue decode h h'
      (memberValue_filter fun m hm hname => hkept m hm (.inl hname))
      (memberValue_filter fun m hm hname => hkept m hm (.inr hname)) method

/-- **Responses are told apart by their content** exactly if all members are read, or the
content calls for the outcome of a response that is not read; and the layout of a response
that is read does not matter. -/
theorem classifiesByContent_iff (method : Text) (body : List Member) :
    (ClassifiesByContent toValue decode method body ↔
      ReadsAll toValue body ∨ ¬ ErrorPresent body ∧
        ∃ result, memberValue "result" body = some result ∧ decode result = none) ∧
    (ReadsAll toValue body → AtMostOnce "error" body → AtMostOnce "result" body →
      LayoutFree toValue decode method body) := by
  refine ⟨⟨fun h => ?_, fun h => ?_⟩, fun h herror hresult => ?_⟩
  · by_cases hreads : ReadsAll toValue body
    · exact .inl hreads
    · exact .inr (h.unexpectedResult.1
        (decodeRpcResponse_of_not_readsAll toValue decode hreads method))
  · by_cases hreads : ReadsAll toValue body
    · exact classifiesByContent_of_readsAll toValue decode hreads method
    · obtain ⟨hno, result, hresult, hdecode⟩ := h.resolve_left hreads
      have houtcome := decodeRpcResponse_of_not_readsAll toValue decode hreads method
      constructor <;> rw [houtcome] <;> simp [hno, hresult, hdecode]
  · exact layoutFree_of_readsAll toValue decode h herror hresult method

/-! ## A name with an escape sequence -/

/-- Texts as values, none of which is refused. -/
def anyValue : Text → Option Text := some

/-- Small decimal numbers. -/
def smallNumber : Text → Option ℕ := Text.parseNat 1000

/-- The member `"no\u0074e": 1`. -/
def escapedNote : Member :=
  ⟨[.char 'n', .char 'o', .escape (some 't'), .char 'e'], ['1']⟩

/-- **A good result is refused** for the spelling of another member's name. -/
theorem classifiesByContent_fails_escaped :
    ¬ ClassifiesByContent anyValue smallNumber "getblockcount".toList
      [.plain "result" "5", escapedNote] := by
  intro h
  have hno : ¬ ErrorPresent [.plain "result" "5", escapedNote] := by
    rintro ⟨value, hvalue, -⟩
    have hnone : memberValue "error" [.plain "result" "5", escapedNote] = none := by decide
    rw [hnone] at hvalue
    cases hvalue
  have hok := (h.ok 5).2 ⟨hno, ['5'], by decide, by decide⟩
  revert hok
  decide

end BitcoinCoreRpc

end CanaryMining
