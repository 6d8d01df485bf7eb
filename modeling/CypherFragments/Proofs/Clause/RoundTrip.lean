import CypherFragments.Clause.Json
import CypherFragments.Proofs.Json.ReadBack

/-!
# Clauses written as JSON

A clause is read back from the text that it is written as, with all its entries in their order,
whatever the templates and parameters hold.

* `MatchEntry.reads_toJson`: an entry, with any text behind it.
* `MatchClause.reads_toJson`: a clause, by its entries.
* `MatchClause.json_roundTrip`: what was read from any text can be written and read again.
-/

set_option autoImplicit false

namespace CypherFragments

open Json Json.Reader

namespace MatchEntry

/-- The two members of an entry, each behind what has to stand in front of it. -/
theorem writeCompact_toJson (e : MatchEntry) (r : List Char) :
    e.toJson.writeCompact ++ r =
      '\x7b' :: '"' :: ("template".toList.flatMap escapeChar ++ '"' :: ':' ::
        (writeString e.template ++ ',' :: '"' :: ("param".toList.flatMap escapeChar ++ '"' :: ':' ::
          (writeString e.param ++ '\x7d' :: r)))) := by
  simp only [toJson, writeCompact, writeMembers, writeString, List.cons_append, List.append_assoc,
    List.nil_append]

theorem reads_members (e : MatchEntry) (r : List Char) :
    Reads (members stringBody member ⟨none, none⟩ true)
      ('"' :: ("template".toList.flatMap escapeChar ++ '"' :: ':' ::
        (writeString e.template ++ ',' :: '"' :: ("param".toList.flatMap escapeChar ++ '"' :: ':' ::
          (writeString e.param ++ '\x7d' :: r)))))
      ⟨some e.template, some e.param⟩ r := by
  have hp : Reads (members stringBody member ⟨some e.template, none⟩ false)
      (',' :: '"' :: ("param".toList.flatMap escapeChar ++ '"' :: ':' ::
        (writeString e.param ++ '\x7d' :: r))) ⟨some e.template, some e.param⟩ r :=
    reads_member (nextKey_more _) (reads_stringBody "param" _) rfl ((reads_text e.param _).map _)
      (reads_members_nil stringBody member _ false r)
  exact reads_member (nextKey_first _) (reads_stringBody "template" _) rfl
    ((reads_text e.template _).map _) hp

/-- **An entry is read back**, whatever follows it. -/
theorem reads_toJson (e : MatchEntry) (r : List Char) :
    Reads shape.read (e.toJson.writeCompact ++ r) e r := by
  rw [writeCompact_toJson]
  refine Shape.reads_object ?_
  obtain ⟨hr, h⟩ := e.reads_members r
  refine ⟨hr, ?_⟩
  show (members stringBody member ⟨none, none⟩ true _ >>= _) = _
  rw [h]
  rfl

theorem opensItem_toJson (e : MatchEntry) : OpensItem e.toJson.writeCompact := by
  have h := e.writeCompact_toJson []
  rw [List.append_nil] at h
  exact ⟨_, _, h, by decide, by decide⟩

end MatchEntry

namespace MatchClause

theorem reads_toJson (c : MatchClause) (r : List Char) :
    Reads shape.read (c.toJson.writeCompact ++ r) c r := by
  have hw : c.toJson.writeCompact ++ r =
      '[' :: (writeItems (c.entries.map (·.toJson)) ++ ']' :: r) := by
    simp only [toJson, writeCompact, List.cons_append, List.append_assoc, List.nil_append]
  rw [hw]
  refine Shape.reads_array ?_
  have hi := reads_items MatchEntry.opensItem_toJson MatchEntry.reads_toJson c.entries r
  exact hi.map MatchClause.mk

theorem ofJson?_toJson (c : MatchClause) : ofJson? c.toJson.compact = .ok c := by
  have h := c.reads_toJson []
  rw [List.append_nil] at h
  refine readWith_of_reads ?_
  rw [compact, String.toList_ofList]
  exact h

/-- **A clause that is written is read back**, whatever its entries hold and whatever follows it.
So to write what was read from a text and read it again changes nothing, neither a clause nor the
fault of a text that holds none, although texts of other shapes are read too. -/
theorem json_roundTrip :
    (∀ c : MatchClause, ofJson? c.toJson.compact = .ok c) ∧
    (∀ s : String, (ofJson? s >>= fun c => ofJson? c.toJson.compact) = ofJson? s) ∧
    ∀ (c : MatchClause) (r : List Char), Reads shape.read (c.toJson.writeCompact ++ r) c r := by
  refine ⟨ofJson?_toJson, fun s => ?_, reads_toJson⟩
  cases ofJson? s with
  | error e => rfl
  | ok c => exact c.ofJson?_toJson

/-- An entry as an array, and one with its members in another order and a member of another name. -/
example :
    (ofJson? ("[[\"a\",\"\\u0001\"], "
        ++ "\x7b\"param\":\"y\",\"z\":null,\"template\":\"a\"\x7d]")).toOption =
      some ⟨[⟨"a", "\x01"⟩, ⟨"a", "y"⟩]⟩ ∧
      (toJson ⟨[⟨"a", "\x01"⟩, ⟨"a", "y"⟩]⟩).compact =
        "[\x7b\"template\":\"a\",\"param\":\"\\u0001\"\x7d,"
          ++ "\x7b\"template\":\"a\",\"param\":\"y\"\x7d]" := by
  decide +kernel

end MatchClause

end CypherFragments
