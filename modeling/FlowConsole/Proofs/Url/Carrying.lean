import FlowConsole.Proofs.Text.Form
import FlowConsole.Store.Client

/-!
# Parameters of raw addresses

The query of an address is written as raw text, and cut into parameters before it is sent. The
parameters that were written are those that are sent if none holds the sign between parameters, and
no name the sign that ends it (`carries_iff`); all other signs may stand in values as they are. An
address that cannot be read is refused by every client, and nothing is sent
(`isRefused_iff`).
-/

namespace FlowConsole.Url

/-- The raw text of parameters. -/
def rawText (params : List (String × String)) : String :=
  Text.join "&" (params.map fun p => p.1 ++ "=" ++ p.2)

/-- The parameters can be written raw. -/
def IsRaw (params : List (String × String)) : Prop :=
  ∀ p ∈ params, '=' ∉ p.1.toList ∧ '&' ∉ p.1.toList ∧ '&' ∉ p.2.toList

/-- What is sent for the raw address has just these parameters, in this order. -/
def Carries (raw : String) (params : List (String × String)) : Prop :=
  ∃ u query, ofRaw raw = .ok u ∧ u.query = some query ∧ Percent.readForm query = params

/-- The raw address is refused, by every client and with any token: it makes no request. -/
def IsRefused (raw : String) : Prop :=
  ∃ e, ofRaw raw = .error e ∧ ∀ (client : Store.Client) (token : Option String),
    client.prepare raw token = .error (.invalidUrl raw e.message)

/-- A raw query is cut into the parameters that it was written from. -/
theorem rawParameters_rawText {params : List (String × String)} (h : IsRaw params) :
    rawParameters (rawText params).toList = params.map fun p => (p.1.toList, p.2.toList) := by
  have hsigns : ∀ p ∈ params.map fun p => (p.1.toList, p.2.toList),
      '=' ∉ p.1 ∧ '&' ∉ p.1 ∧ '&' ∉ p.2 := by
    intro p hp
    obtain ⟨q, hq, rfl⟩ := List.mem_map.mp hp
    exact h q hq
  have htext : (rawText params).toList = Text.joinPieces '&'
      ((params.map fun p => (p.1.toList, p.2.toList)).map fun p => p.1 ++ '=' :: p.2) := by
    rw [rawText, Text.toList_join (c := '&') rfl, List.map_map, List.map_map]
    simp [Function.comp_def]
  rw [rawParameters, htext, Percent.cut_joinPieces hsigns]

private theorem ofRaw_eq {address : String} {params : List (String × String)}
    (haddress : '?' ∉ address.toList) (h : IsRaw params) :
    ofRaw (address ++ "?" ++ rawText params) = (read address.toList).map fun u =>
      { u with query := some (Percent.renderForm (params.map fun p => (p.1.toList, p.2.toList))) }
      := by
  have hcut : Text.cut? '?' (address ++ "?" ++ rawText params).toList =
      some (address.toList, (rawText params).toList) := by
    rw [String.toList_append, String.toList_append, List.append_assoc]
    exact Text.cut?_append haddress _
  rw [ofRaw, hcut]
  dsimp only
  rw [rawParameters_rawText h]

/-- Raw parameters after an address and a question mark are sent exactly if the address can be
read. -/
theorem carries_iff {address : String} {params : List (String × String)}
    (haddress : '?' ∉ address.toList) (h : IsRaw params) :
    Carries (address ++ "?" ++ rawText params) params ↔ ∃ u, read address.toList = .ok u := by
  have hform : Percent.readForm
      (Percent.renderForm (params.map fun p => (p.1.toList, p.2.toList))) = params := by
    rw [Percent.readForm_renderForm, List.map_map]
    simp [Function.comp_def]
  rw [Carries, ofRaw_eq haddress h]
  constructor
  · rintro ⟨u, query, hu, -, -⟩
    obtain ⟨v, hread, -⟩ := Outcome.map_eq_ok.mp hu
    exact ⟨v, hread⟩
  · rintro ⟨u, hu⟩
    rw [hu]
    exact ⟨_, _, rfl, rfl, hform⟩

/-- Every client refuses a raw address that cannot be read. -/
theorem isRefused_of_ofRaw {raw : String} {e : Error} (h : ofRaw raw = .error e) :
    IsRefused raw := by
  refine ⟨e, h, fun client token => ?_⟩
  rw [Store.Client.prepare, h]
  rfl

/-- Raw parameters after an address and a question mark are refused exactly if the address cannot be
read. -/
theorem isRefused_iff {address : String} {params : List (String × String)}
    (haddress : '?' ∉ address.toList) (h : IsRaw params) :
    IsRefused (address ++ "?" ++ rawText params) ↔ ¬∃ u, read address.toList = .ok u := by
  constructor
  · rintro ⟨e, he, -⟩ ⟨u, hu⟩
    rw [ofRaw_eq haddress h, hu] at he
    cases he
  · intro hread
    cases hu : read address.toList with
    | ok u => exact absurd ⟨u, hu⟩ hread
    | error e =>
      refine isRefused_of_ofRaw (e := e) ?_
      rw [ofRaw_eq haddress h, hu]
      rfl

end FlowConsole.Url
