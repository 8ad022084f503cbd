import SubDocAgent.Go

/-!
# The error types

The client's error types (unnamed/part_000) each wrap an `InnerError`: `wrappedError`,
`SubDocumentError`, `KeyValueError`, the query errors, and `ncError`, which hides the public
errors (`errTimeout` is `ncError{ErrTimeout}`) so that callers check them with `errors.Is` and
not by comparing. Each type's `Unwrap` returns its `InnerError` and its `Error` calls
`InnerError.Error()`, so an error value is a chain of wrappers that ends in nil or in an error
made by `errors.New`; `errorsIs`, `errorsAsKeyValueError` and `isErrorStatus` are `errors.Is`,
`errors.As` and the client's check of a status code over such chains.
-/

namespace SubDocAgent

/-- The wrapper types, with the fields their methods read other than `InnerError`. -/
inductive Wrapper where
  | wrappedError (message : String)
  | subDocumentError (index : Int)
  /-- `KeyValueError{StatusCode}`: its other fields only reach `serializeError`. -/
  | keyValueError (statusCode : StatusCode)
  | viewError
  | n1qlError
  | analyticsError
  | searchError
  | httpError
  /-- `ncError`, the wrapper of the protected errors. -/
  | ncError
  deriving DecidableEq

/-- A value of Go's `error` interface as the client builds it: nil, an error made by
`errors.New` (the public errors and the internal ones such as `errCircuitBreakerOpen`), known by
its address and its text, or a wrapper around its `InnerError`. -/
inductive ErrorValue where
  | nil
  | errorString (addr : Nat) (text : String)
  | wrap (w : Wrapper) (innerError : ErrorValue)
  deriving DecidableEq

def wrapError (err : ErrorValue) (message : String) : ErrorValue :=
  .wrap (.wrappedError message) err

/-- The text of a wrapper's `Error()` around the text `inner` of `InnerError.Error()`; the
`Error` of `KeyValueError` and the query errors appends `serializeError(e)`, the JSON of the
error's own fields (`InnerError` is tagged `json:"-"`). -/
def Wrapper.error (serializeError : Wrapper → String) (w : Wrapper) (inner : String) : String :=
  match w with
  | .wrappedError message => message ++ ": " ++ inner
  | .subDocumentError index => "sub-document error at index " ++ toString index ++ ": " ++ inner
  | .keyValueError _ | .viewError | .n1qlError | .analyticsError | .searchError | .httpError =>
    inner ++ " | " ++ serializeError w
  | .ncError => inner

/-- `err.Error()`: a call on a nil error panics, and every wrapper calls `InnerError.Error()`. -/
def ErrorValue.error (serializeError : Wrapper → String) : ErrorValue → Go String
  | .nil => .panic
  | .errorString _ text => .ok text
  | .wrap w innerError => do
    let inner ← innerError.error serializeError
    pure (w.error serializeError inner)

/-- `errors.Is(err, target)` for `target` the `errors.New` error at `addr`. `err == target` holds
only for that error itself, since a wrapper has another dynamic type and none panics on the
comparison. None of the client's types has an `Is` method, and each wrapper is unwrapped in
turn, down to nil or an error without `Unwrap`. -/
def errorsIs (addr : Nat) : ErrorValue → Bool
  | .nil => false
  | .errorString addr' _ => addr' == addr
  | .wrap _ innerError => errorsIs addr innerError

/-- `errors.As(err, &kvErr)` for a `KeyValueError` `kvErr`: the `StatusCode` of the first
`KeyValueError` on the chain of `Unwrap`s, which `errors.As` stores in `kvErr`. -/
def errorsAsKeyValueError : ErrorValue → Option StatusCode
  | .wrap (.keyValueError statusCode) _ => some statusCode
  | .wrap _ innerError => errorsAsKeyValueError innerError
  | _ => none

def isErrorStatus (err : ErrorValue) (code : StatusCode) : Bool :=
  match errorsAsKeyValueError err with
  | some statusCode => statusCode == code
  | none => false

/-! ### The end of the chain -/

/-- Where the chain of `Unwrap`s from an error ends: nil, or an error made by `errors.New`. -/
def ErrorValue.innermost : ErrorValue → ErrorValue
  | .wrap _ innerError => innerError.innermost
  | err => err

section Text

variable (serializeError : Wrapper → String)

theorem Wrapper.error_infix (w : Wrapper) (pre text post : String) :
    ∃ pre' post', w.error serializeError (pre ++ text ++ post) = pre' ++ text ++ post' := by
  cases w with
  | wrappedError message =>
    exact ⟨message ++ ": " ++ pre, post, by simp only [Wrapper.error, String.append_assoc]⟩
  | subDocumentError index =>
    exact ⟨"sub-document error at index " ++ toString index ++ ": " ++ pre, post,
      by simp only [Wrapper.error, String.append_assoc]⟩
  | ncError => exact ⟨pre, post, rfl⟩
  | _ => exact ⟨pre, _, by simp only [Wrapper.error, String.append_assoc]; rfl⟩

/-- `Error()` of any error value: it panics exactly when the chain of `InnerError`s ends in nil
(a wrapper built without its `InnerError`, or a nil error); otherwise it returns a text that
contains the text of the `errors.New` error at the end of the chain. -/
theorem error_text (err : ErrorValue) :
    (err.error serializeError = .panic ↔ err.innermost = .nil) ∧
    ∀ addr text, err.innermost = .errorString addr text →
      ∃ pre post, err.error serializeError = .ok (pre ++ text ++ post) := by
  induction err with
  | nil => exact ⟨iff_of_true rfl rfl, fun _ _ h => by cases h⟩
  | errorString addr' text' =>
    refine ⟨iff_of_false (fun h => by cases h) (fun h => by cases h), fun addr text h => ?_⟩
    cases h
    exact ⟨"", "", by rw [String.empty_append, String.append_empty]; rfl⟩
  | wrap w innerError ih =>
    refine ⟨?_, fun addr text h => ?_⟩
    · show (innerError.error serializeError >>= _) = .panic ↔ innerError.innermost = .nil
      rw [← ih.1]
      cases innerError.error serializeError <;> simp
    · obtain ⟨pre, post, hinner⟩ := ih.2 addr text h
      obtain ⟨pre', post', hw⟩ := w.error_infix serializeError pre text post
      exact ⟨pre', post', by rw [ErrorValue.error, hinner, ← hw]; rfl⟩

example :
    (wrapError (.wrap (.subDocumentError 2) (.wrap .ncError (.errorString 7 "path not found")))
      "lookup failed").error (fun _ => "") =
      .ok "lookup failed: sub-document error at index 2: path not found" := rfl

end Text

/-! ### Protected errors -/

def ErrorValue.wrapAll (ws : List Wrapper) (err : ErrorValue) : ErrorValue := ws.foldr .wrap err

def Wrapper.statusCode? : Wrapper → Option StatusCode
  | .keyValueError statusCode => some statusCode
  | _ => none

theorem sizeOf_le_wrapAll (ws : List Wrapper) (err : ErrorValue) :
    sizeOf err ≤ sizeOf (err.wrapAll ws) := by
  induction ws with
  | nil => exact le_refl _
  | cons w ws ih =>
    show sizeOf err ≤ sizeOf (ErrorValue.wrap w (err.wrapAll ws))
    simp only [ErrorValue.wrap.sizeOf_spec]
    omega

theorem errorsIs_wrapAll (addr : Nat) (ws : List Wrapper) (err : ErrorValue) :
    errorsIs addr (err.wrapAll ws) = errorsIs addr err := by
  induction ws with
  | nil => rfl
  | cons w ws ih => exact ih

theorem errorsAsKeyValueError_wrapAll (ws : List Wrapper) (err : ErrorValue) :
    errorsAsKeyValueError (err.wrapAll ws) =
      (ws.findSome? Wrapper.statusCode?).or (errorsAsKeyValueError err) := by
  induction ws with
  | nil => rfl
  | cons w ws ih => cases w <;> first | rfl | exact ih

/-- Whatever the client wraps around a protected error `ncError{E}`, with `E` made by
`errors.New`: the result is never `== E`, so a direct comparison fails; `errors.Is` finds `E`
through it; and `isErrorStatus` holds for exactly the status of the outermost `KeyValueError` of
the wrapping, and for none when there is none. -/
theorem protectedError_wrapped (ws : List Wrapper) (addr : Nat) (text : String)
    (code : StatusCode) :
    (ErrorValue.wrap .ncError (.errorString addr text)).wrapAll ws ≠ .errorString addr text ∧
    errorsIs addr ((ErrorValue.wrap .ncError (.errorString addr text)).wrapAll ws) = true ∧
    (isErrorStatus ((ErrorValue.wrap .ncError (.errorString addr text)).wrapAll ws) code = true ↔
      ws.findSome? Wrapper.statusCode? = some code) := by
  refine ⟨fun h => ?_, by rw [errorsIs_wrapAll]; exact beq_self_eq_true addr, ?_⟩
  · have hle := sizeOf_le_wrapAll ws (.wrap .ncError (.errorString addr text))
    rw [h, ErrorValue.wrap.sizeOf_spec] at hle
    omega
  · have hnc : errorsAsKeyValueError (.wrap .ncError (.errorString addr text)) = none := rfl
    rw [isErrorStatus, errorsAsKeyValueError_wrapAll, hnc]
    cases ws.findSome? Wrapper.statusCode? <;> simp

end SubDocAgent
