import WebTestbed.Json.Reader
import WebTestbed.Text.Blank
import WebTestbed.Text.Quoted

/-! Extra directives by key: server-wide ones under the base key, others under the name of a host.
-/
namespace WebTestbed

structure Extras where
  entries : List (String × List String)
  sorted : entries.Pairwise (fun a b => a.1 < b.1) := by simp
  deriving DecidableEq

namespace Extras

/-- The key of the directives that belong to no host. -/
def baseKey : String := "base"

def empty : Extras := ⟨[], .nil⟩

def update (key : String) (f : Option (List String) → List String) :
    List (String × List String) → List (String × List String)
  | [] => [(key, f none)]
  | e :: r =>
    if key = e.1 then (key, f (some e.2)) :: r
    else if key < e.1 then (key, f none) :: e :: r
    else e :: update key f r

theorem mem_update {key : String} {f} {l : List (String × List String)} {e}
    (h : e ∈ update key f l) : e.1 = key ∨ e ∈ l := by
  induction l with
  | nil => simp_all [update]
  | cons a r ih =>
    simp only [update] at h
    split at h
    · simp only [List.mem_cons] at h ⊢
      rcases h with rfl | h
      · exact .inl rfl
      · exact .inr (.inr h)
    · split at h
      · simp only [List.mem_cons] at h ⊢
        rcases h with rfl | h
        · exact .inl rfl
        · exact .inr h
      · simp only [List.mem_cons] at h ⊢
        rcases h with h | h
        · exact .inr (.inl h)
        · exact (ih h).imp id .inr

theorem sorted_update {key : String} {f} {l : List (String × List String)}
    (h : l.Pairwise fun a b => a.1 < b.1) : (update key f l).Pairwise fun a b => a.1 < b.1 := by
  induction l with
  | nil => simp [update]
  | cons a r ih =>
    obtain ⟨ha, hr⟩ := List.pairwise_cons.1 h
    simp only [update]
    split
    · next hk =>
      refine List.pairwise_cons.2 ⟨fun b hb => ?_, hr⟩
      rw [hk]
      exact ha b hb
    · next hk =>
      split
      · next hlt =>
        refine List.pairwise_cons.2 ⟨fun b hb => ?_, h⟩
        rcases List.mem_cons.1 hb with rfl | hb
        · exact hlt
        · exact String.lt_trans hlt (ha b hb)
      · next hlt =>
        refine List.pairwise_cons.2 ⟨fun b hb => ?_, ih hr⟩
        rcases mem_update hb with hb | hb
        · rw [hb]
          exact Std.lt_of_le_of_ne (Std.not_lt.1 hlt) (Ne.symm hk)
        · exact ha b hb

def insert (x : Extras) (key : String) (directives : List String) : Extras :=
  ⟨update key (fun _ => directives) x.entries, sorted_update x.sorted⟩

def append (x : Extras) (key : String) (directives : List String) : Extras :=
  ⟨update key (fun old => old.getD [] ++ directives) x.entries, sorted_update x.sorted⟩

def get? (x : Extras) (key : String) : Option (List String) :=
  x.entries.lookup key

def contains (x : Extras) (key : String) : Bool :=
  (x.get? key).isSome

def size (x : Extras) : Nat :=
  x.entries.length

def isEmpty (x : Extras) : Bool :=
  x.entries.isEmpty

structure InvalidAssignment where
  text : String
  deriving DecidableEq, Repr

def InvalidAssignment.message (e : InvalidAssignment) : String :=
  "extra must have the form KEY=DIRECTIVE: " ++ Text.quote e.text

/-- The key and the directive of an assignment: the texts before and after the first equals sign,
both trimmed. -/
def readAssignment (s : String) : Except InvalidAssignment (String × String) :=
  match Text.cutString '=' s with
  | none => .error ⟨s⟩
  | some (key, directive) =>
    if (Text.trimmed key).isEmpty then .error ⟨s⟩
    else .ok (Text.trimmed key, Text.trimmed directive)

def assign (x : Extras) (s : String) : Except InvalidAssignment Extras := do
  let (key, directive) ← readAssignment s
  return x.append key [directive]

def ofAssignments (l : List String) : Except InvalidAssignment Extras :=
  l.foldlM assign empty

/-- All directives of the first extras, each key's followed by those of the second. -/
def union (a b : Extras) : Extras :=
  b.entries.foldl (fun x e => x.append e.1 e.2) a

def merge : Option Extras → Option Extras → Option Extras
  | none, b => b
  | a, none => a
  | some a, some b => some (a.union b)

def directives? : Json.Value → Option (List String)
  | .string s => some [s]
  | .array l => l.mapM fun
    | .string s => some s
    | _ => none
  | _ => none

def read (s : List Char) : Except Json.ReadError Extras := do
  let fields ← Json.readObjectOf (fun v => (directives? v).isSome) s
  return fields.foldl (fun x f => x.insert f.1 ((directives? f.2).getD [])) empty

end WebTestbed.Extras
