import GatewayClient.Proofs.Settings.Validity
import GatewayClient.Proofs.Toml.Document
/-!
# Settings there and back

The text that is written for settings is a TOML document with two sections (`document`), laid out
as the reader takes it (`layout_of_toToml?`). No name occurs twice in it, so each field is found
again, and one that was left out gets the default, which is what it had.

Main statement: `parse_render`.
-/

namespace GatewayClient.Settings

open Toml (Document Entries Value Key Layout IsBare Denotes renderEntry renderHeader renderString
  renderFloat renderNat?)

variable {s : Settings} {text : List Char}

/-! ## The document -/

/-- The entries of the retry settings. A limit that is not set is left out. -/
def retryEntries (retry : RetrySettings) : Entries :=
  [("initial_delay_ms".toList, .integer retry.initialDelay),
    ("max_delay_ms".toList, .integer retry.maxDelay),
    ("backoff_multiplier".toList, .float retry.multiplier)]
  ++ (retry.maxAttempts.map fun n : Nat => ("max_attempts".toList, .integer n)).toList

/-- What is written of settings. A path that is not set is left out. -/
def document (s : Settings) : Document where
  entries := ("base_url".toList, .string s.baseUrl.toList)
    :: (s.tokenPath.map fun path => ("token_path".toList, .string path.toList)).toList
  sections := [("reconnect".toList, retryEntries s.retry),
    ("heartbeat".toList, [("timeout_multiplier".toList, .integer s.timeoutMultiplier)])]

/-- The names of fields and sections. -/
def names : List String :=
  ["base_url", "token_path", "reconnect", "initial_delay_ms", "max_delay_ms", "backoff_multiplier",
    "max_attempts", "heartbeat", "timeout_multiplier"]

theorem isBare_names : ∀ name ∈ names, IsBare name.toList := by
  decide

theorem layout_tokenPath (s : Settings) :
    Layout (match s.tokenPath with
      | none => []
      | some path => renderEntry "token_path" (renderString path.toList))
      ((s.tokenPath.map fun path => ("token_path".toList, .string path.toList)).toList.map
        Document.entryLine) := by
  cases s.tokenPath with
  | none => exact .nil
  | some path => exact .oneEntry (isBare_names _ (by decide)) (.string path.toList)

/-- The lines of the document are those of the text around the numbers. -/
theorem layout_document (hfinite : s.retry.multiplier.isFinite = true)
    {attempts initialDelay maxDelay timeout : List Char}
    (hattempts : Layout attempts ((s.retry.maxAttempts.map fun n : Nat =>
      ("max_attempts".toList, .integer n)).toList.map Document.entryLine))
    (hinitial : renderNat? s.retry.initialDelay = some initialDelay)
    (hmax : renderNat? s.retry.maxDelay = some maxDelay)
    (htimeout : renderNat? s.timeoutMultiplier = some timeout) :
    Layout (renderEntry "base_url" (renderString s.baseUrl.toList)
        ++ (match s.tokenPath with
          | none => []
          | some path => renderEntry "token_path" (renderString path.toList))
        ++ '\n' :: renderHeader "reconnect"
        ++ renderEntry "initial_delay_ms" initialDelay
        ++ renderEntry "max_delay_ms" maxDelay
        ++ renderEntry "backoff_multiplier" (renderFloat s.retry.multiplier)
        ++ attempts
        ++ '\n' :: renderHeader "heartbeat"
        ++ renderEntry "timeout_multiplier" timeout)
      s.document.lines := by
  have hentry (name : String) (hname : name ∈ names) {value : List Char} {v : Value}
      (hvalue : Denotes value v) : Layout (renderEntry name value) [.entry [name.toList] v] :=
    .oneEntry (isBare_names name hname) hvalue
  have hheader (name : String) (hname : name ∈ names) :
      Layout ('\n' :: renderHeader name) [.table [name.toList]] :=
    .oneHeader (isBare_names name hname)
  have hlayout :=
    ((((((((hentry "base_url" (by decide) (.string s.baseUrl.toList)).append
      (layout_tokenPath s)).append
      (hheader "reconnect" (by decide))).append
      (hentry "initial_delay_ms" (by decide) (.nat hinitial))).append
      (hentry "max_delay_ms" (by decide) (.nat hmax))).append
      (hentry "backoff_multiplier" (by decide) (.float hfinite))).append
      hattempts).append
      (hheader "heartbeat" (by decide))).append
      (hentry "timeout_multiplier" (by decide) (.nat htimeout))
  simpa only [Document.lines, document, retryEntries, Document.entryLine, List.map_cons, List.map_nil,
    List.map_append, List.flatMap_cons, List.flatMap_nil, List.append_assoc, List.cons_append,
    List.nil_append, List.append_nil] using hlayout

theorem layout_of_toToml? (hfinite : s.retry.multiplier.isFinite = true)
    (h : s.toToml? = some text) : Layout text s.document.lines := by
  unfold toToml? at h
  cases hattempts : s.retry.maxAttempts with
  | none =>
    simp only [hattempts, Option.bind_eq_bind, Option.bind_eq_some_iff] at h
    obtain ⟨attempts, hnone, initialDelay, hinitial, maxDelay, hmax, timeout, htimeout, h⟩ := h
    cases hnone
    cases h
    exact layout_document hfinite (by rw [hattempts]; exact .nil) hinitial hmax htimeout
  | some n =>
    simp only [hattempts, Option.bind_eq_bind, Option.bind_eq_some_iff] at h
    obtain ⟨attempts, hsome, initialDelay, hinitial, maxDelay, hmax, timeout, htimeout, h⟩ := h
    obtain ⟨digits, hdigits, rfl⟩ := Option.map_eq_some_iff.1 hsome
    cases h
    refine layout_document hfinite ?_ hinitial hmax htimeout
    rw [hattempts]
    exact .oneEntry (isBare_names _ (by decide)) (.nat hdigits)

theorem distinct_document (s : Settings) : s.document.Distinct := by
  obtain ⟨baseUrl, tokenPath, ⟨initialDelay, maxDelay, multiplier, maxAttempts⟩, timeoutMultiplier⟩ := s
  constructor
  · cases tokenPath with
    | none =>
      change (["base_url", "reconnect", "heartbeat"].map String.toList).Nodup
      decide
    | some path =>
      change (["base_url", "token_path", "reconnect", "heartbeat"].map String.toList).Nodup
      decide
  · refine List.forall_mem_cons.2 ⟨?_, List.forall_mem_cons.2 ⟨?_, by simp⟩⟩
    · cases maxAttempts with
      | none =>
        change (["initial_delay_ms", "max_delay_ms", "backoff_multiplier"].map String.toList).Nodup
        decide
      | some n =>
        change (["initial_delay_ms", "max_delay_ms", "backoff_multiplier",
          "max_attempts"].map String.toList).Nodup
        decide
    · change (["timeout_multiplier"].map String.toList).Nodup
      decide

/-! ## Fields -/

/-- Numbers fit in the words that are meant for them. -/
structure InRange (s : Settings) : Prop where
  initialDelay : s.retry.initialDelay < 1 <<< 64
  maxDelay : s.retry.maxDelay < 1 <<< 64
  maxAttempts : ∀ n ∈ s.retry.maxAttempts, n < 1 <<< 32
  timeoutMultiplier : s.timeoutMultiplier < 1 <<< 32

theorem nat?_integer {bits n : Nat} (h : n < 1 <<< bits) : nat? bits (.integer n) = some n :=
  if_pos h

theorem orDefault?_some {α : Type} (read : Value → Option α) (default : α) (value : Value) :
    orDefault? read default (some value) = read value := rfl

theorem float?_float (x : Binary64) : float? (.float x) = some x := rfl

theorem string?_string (text : String) : string? (.string text.toList) = some text := by
  rw [string?, String.ofList_toList]

theorem fields?_retryEntries (retry : RetrySettings) :
    fields? ["initial_delay_ms", "max_delay_ms", "backoff_multiplier", "max_attempts"]
        (.table .header (retryEntries retry))
      = some [some (.integer retry.initialDelay), some (.integer retry.maxDelay),
          some (.float retry.multiplier), retry.maxAttempts.map fun n : Nat => .integer n] := by
  obtain ⟨initialDelay, maxDelay, multiplier, maxAttempts⟩ := retry
  cases maxAttempts <;> rfl

theorem maxAttempts_orDefault? {maxAttempts : Option Nat} (h : ∀ n ∈ maxAttempts, n < 1 <<< 32) :
    orDefault? (fun v => (nat? 32 v).map some) none (maxAttempts.map fun n : Nat => .integer n)
      = some maxAttempts := by
  cases maxAttempts with
  | none => rfl
  | some n => rw [Option.map_some, orDefault?_some, nat?_integer (h n rfl)]; rfl

theorem retryOfToml?_entries (h : s.InRange) :
    retryOfToml? (.table .header (retryEntries s.retry)) = some s.retry := by
  simp only [retryOfToml?, fields?_retryEntries, maxAttempts_orDefault? h.maxAttempts,
    orDefault?_some, nat?_integer h.initialDelay, nat?_integer h.maxDelay, float?_float,
    Option.bind_eq_bind, Option.bind_some]

/-- What was written is read, and what was left out gets the default that it had. -/
theorem ofToml?_document (h : s.InRange) : ofToml? s.document.table = some s := by
  have hbase : s.document.table.lookup "base_url".toList = some (.string s.baseUrl.toList) := rfl
  have htoken : s.document.table.lookup "token_path".toList
      = s.tokenPath.map fun path => .string path.toList := by
    rw [Document.table, document]
    cases s.tokenPath <;> rfl
  have hretry : s.document.table.lookup "reconnect".toList
      = some (.table .header (retryEntries s.retry)) := by
    rw [Document.table, document]
    cases s.tokenPath <;> rfl
  have hheartbeat : s.document.table.lookup "heartbeat".toList = some (.table .header
      [("timeout_multiplier".toList, .integer s.timeoutMultiplier)]) := by
    rw [Document.table, document]
    cases s.tokenPath <;> rfl
  have htimeout : timeoutOfToml? (.table .header
      [("timeout_multiplier".toList, .integer s.timeoutMultiplier)]) = some s.timeoutMultiplier :=
    nat?_integer h.timeoutMultiplier
  have hpath : orDefault? (fun v => (string? v).map some) none
      (s.tokenPath.map fun path => .string path.toList) = some s.tokenPath := by
    cases s.tokenPath with
    | none => rfl
    | some path => rw [Option.map_some, orDefault?_some, string?_string]; rfl
  simp only [ofToml?, hbase, htoken, hretry, hheartbeat, hpath, htimeout, orDefault?_some,
    retryOfToml?_entries h, string?_string, Option.bind_eq_bind, Option.bind_some]

/-! ## Texts -/

theorem of_validate [Idna] (h : s.validate = .ok ()) :
    (∃ endpoint, s.endpoint = .ok endpoint) ∧ s.retry.multiplier.isFinite = true := by
  have hvalid := validate_eq_ok_iff.1 h
  exact ⟨hvalid.endpoint_ok, hvalid.multiplier_finite⟩

/-- What was written is a table of the settings, whether they are valid or not. -/
theorem ofToml?_render (hrange : s.InRange) (hfinite : s.retry.multiplier.isFinite = true)
    {text : String} (hrender : s.render = .ok text) :
    (Toml.parse? text.toList).bind ofToml? = some s := by
  unfold render at hrender
  split at hrender
  · next lines hlines =>
    cases hrender
    have hlayout := layout_of_toToml? hfinite hlines
    rw [String.toList_ofList, Document.parse?_eq hlayout (distinct_document s), Option.bind_some,
      ofToml?_document hrange]
  · cases hrender

/-- Settings that are valid, and that can be written, are read as they were. -/
theorem parse_render [Idna] (hrange : s.InRange) (hvalid : s.validate = .ok ()) {text : String}
    (hrender : s.render = .ok text) : parse text = .ok s := by
  have hread := ofToml?_render hrange (of_validate hvalid).2 hrender
  simp only [parse, hread, hvalid]
  rfl

end GatewayClient.Settings
