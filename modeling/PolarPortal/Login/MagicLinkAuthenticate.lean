import PolarPortal.Login.FormUrlencoded

/-!
# The magic link page (`ClientPage`)

The page a magic link opens: a form that posts the link's `token`, as a hidden input, to the
API's `/v1/magic_link/authenticate`, with the link's `return_to` in the query when it has a
non-empty one, and a Log in button that the first submission disables.  The API's base URL is
configuration outside this slice, a parameter here.

* `authenticateAction_query`: under a base URL with no query and no fragment, the API reads a
  `return_to` exactly when the link had a non-empty one, and then reads the link's own bytes;
* `authenticateBody_decode`: it reads the token, byte for byte, once the browser has normalized
  its newlines to CRLF, so a token without CR or LF arrives as it is;
* `clickLogIn_run`: however often Log in is clicked, the form is posted once.
-/

namespace PolarPortal

/-- The search params `urlSearchParams` builds: `{...(return_to && { return_to })}`, so an
absent or empty `return_to` adds no parameter. -/
def urlSearchParams (returnTo : Option String) : List (String × String) :=
  match returnTo with
  | some r => if r ≠ "" then [("return_to", r)] else []
  | none => []

/-- The form's `action`. -/
def authenticateAction (baseUrl : String) (returnTo : Option String) : String :=
  baseUrl ++ "/v1/magic_link/authenticate?" ++ String.mk (formSerialize (urlSearchParams returnTo))

/-- The query of a URL: what follows its first `?`, up to the `#` that starts its fragment; a
URL whose fragment starts before any `?` has no query. -/
def queryOf (url : String) : List Char :=
  ((url.data.takeWhile (· != '#')).dropWhile (· != '?')).drop 1

/-- The body the browser posts: the form's one entry, the hidden `token` input. -/
def authenticateBody (token : String) : List Char :=
  formSubmit [("token", token)]

theorem queryOf_append {base : List Char} (hbase : '?' ∉ base) (query : List Char) :
    (base ++ '?' :: query).dropWhile (· != '?') = '?' :: query := by
  induction base with
  | nil => simp
  | cons c base ih =>
    have hc : (c != '?') = true := bne_iff_ne.2 fun e => hbase (e ▸ List.mem_cons_self c base)
    simp only [List.cons_append, List.dropWhile_cons, hc, if_true]
    exact ih fun hm => hbase (List.mem_cons_of_mem _ hm)

/-- Under a base URL with neither a query nor a fragment, the API reads a `return_to` exactly
when the link had a non-empty one, and then reads its bytes. -/
theorem authenticateAction_query (baseUrl : String) (hquery : '?' ∉ baseUrl.data)
    (hfragment : '#' ∉ baseUrl.data) (returnTo : Option String) :
    formDecode (queryOf (authenticateAction baseUrl returnTo)) =
      (returnTo.filter (· != "")).toList.map fun r => (utf8Bytes "return_to", utf8Bytes r) := by
  have hpath : '?' ∉ (baseUrl ++ "/v1/magic_link/authenticate").data := by
    simpa [String.data_append] using hquery
  have hurl : (authenticateAction baseUrl returnTo).data =
      (baseUrl ++ "/v1/magic_link/authenticate").data ++
        '?' :: formSerialize (urlSearchParams returnTo) := by
    simp [authenticateAction, String.data_append]
  have hnohash : '#' ∉ (authenticateAction baseUrl returnTo).data := by
    simp only [hurl, String.data_append, List.mem_append, List.mem_cons, not_or]
    exact ⟨⟨hfragment, by decide⟩, by decide, hash_not_mem_formSerialize _⟩
  rw [queryOf,
    List.takeWhile_eq_self_iff.2 fun _ hc => bne_iff_ne.2 (ne_of_mem_of_not_mem hc hnohash),
    hurl, queryOf_append hpath, List.drop_one, List.tail_cons, formDecode_formSerialize]
  cases returnTo with
  | none => rfl
  | some r => by_cases h : r = "" <;> simp [urlSearchParams, Option.filter, h]

theorem authenticateAction_query_dashboard :
    formDecode (queryOf (authenticateAction "https://api.polar.sh" (some "/dashboard"))) =
      [(utf8Bytes "return_to", utf8Bytes "/dashboard")] :=
  authenticateAction_query "https://api.polar.sh" (by decide) (by decide) (some "/dashboard")

/-- The API reads one entry, `token`, whose value is the link's token with its newlines
normalized to CRLF, byte for byte; a token without CR or LF arrives as it is. -/
theorem authenticateBody_decode (token : String) :
    formDecode (authenticateBody token) =
        [(utf8Bytes "token", utf8Bytes ⟨normalizeNewlines token.data⟩)] ∧
      ((∀ c ∈ token.data, c ≠ '\r' ∧ c ≠ '\n') →
        formDecode (authenticateBody token) = [(utf8Bytes "token", utf8Bytes token)]) := by
  have hdecode : formDecode (authenticateBody token) =
      [(utf8Bytes "token", utf8Bytes ⟨normalizeNewlines token.data⟩)] := by
    rw [authenticateBody, formDecode_formSubmit]
    rfl
  exact ⟨hdecode, fun h => by rw [hdecode, normalizeNewlines_of_forall h]⟩

/-! ## Submitting -/

/-- The page's state: `loading`, and the bodies posted so far. -/
structure ClientPageState where
  loading : Bool
  posted : List (List Char)
  deriving DecidableEq, Repr

/-- The state before any click. -/
def ClientPageState.initial : ClientPageState := ⟨false, []⟩

/-- A click on Log in: the button is disabled while `loading`; otherwise `onSubmit` sets
`loading` and submits the form. -/
def clickLogIn (token : String) (st : ClientPageState) : ClientPageState :=
  if st.loading then st else ⟨true, st.posted ++ [authenticateBody token]⟩

/-- The page's invariant: nothing is posted before the first submission and one body after. -/
def ClientPageState.Posted (token : String) (st : ClientPageState) : Prop :=
  st.posted = if st.loading then [authenticateBody token] else []

theorem clickLogIn_posted {token : String} {st : ClientPageState} (h : st.Posted token) :
    (clickLogIn token st).Posted token := by
  unfold clickLogIn ClientPageState.Posted at *
  cases hl : st.loading <;> simp_all

/-- However often Log in is clicked, the form is posted exactly once after the first click. -/
theorem clickLogIn_run (token : String) (n : Nat) :
    ((clickLogIn token)^[n] .initial).posted = if n = 0 then [] else [authenticateBody token] := by
  have hrun : ∀ n, ((clickLogIn token)^[n] .initial).Posted token ∧
      ((clickLogIn token)^[n] .initial).loading = decide (n ≠ 0) := by
    intro n
    induction n with
    | zero => exact ⟨rfl, rfl⟩
    | succ n ih =>
      rw [Function.iterate_succ_apply']
      refine ⟨clickLogIn_posted ih.1, ?_⟩
      unfold clickLogIn
      split_ifs with h <;> simp_all
  rw [(hrun n).1, (hrun n).2]
  by_cases hn : n = 0 <;> simp [hn]

end PolarPortal
