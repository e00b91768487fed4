import Anchr.Infra.Json

/-!
# JSON text with white space

`JSON.stringify(value, null, gap)` puts every element and member on a line of its own, indented by
its depth.
-/

namespace Anchr.Infra.Json

/-- White space before an item of the given depth, and after the colon of a member. -/
structure Layout where
  line : Nat → List Char
  colon : List Char
  line_ws : ∀ depth, ∀ c ∈ line depth, isWs c = true
  colon_ws : ∀ c ∈ colon, isWs c = true

def Layout.compact : Layout where
  line _ := []
  colon := []
  line_ws := by simp
  colon_ws := by simp

/-- A new line for every item, `gap` spaces for each level. -/
def Layout.indent (gap : Nat) : Layout where
  line depth := '\n' :: List.replicate (gap * depth) ' '
  colon := [' ']
  line_ws := by
    intro depth c hc
    rcases List.mem_cons.mp hc with rfl | hc
    · rfl
    · rw [List.eq_of_mem_replicate hc]
      rfl
  colon_ws := by simp [isWs]

variable (T : NumberText) (L : Layout)

mutual

/-- The text of a value whose brackets stand at the given depth. -/
def layOut : Nat → Json → List Char
  | _, .null => ['n', 'u', 'l', 'l']
  | _, .bool true => ['t', 'r', 'u', 'e']
  | _, .bool false => ['f', 'a', 'l', 's', 'e']
  | _, .num n => numberChars T n
  | _, .str s => quote s.toList
  | _, .arr [] => ['[', ']']
  | depth, .arr (v :: vs) =>
    '[' :: (L.line (depth + 1) ++ (layOut (depth + 1) v ++ layOutElems depth vs))
  | _, .obj [] => ['{', '}']
  | depth, .obj ((k, v) :: ms) =>
    '{' :: (L.line (depth + 1) ++
      (quote k.toList ++ ':' :: (L.colon ++ (layOut (depth + 1) v ++ layOutMembers depth ms))))

/-- The elements after the first, with the closing bracket. -/
def layOutElems : Nat → List Json → List Char
  | depth, [] => L.line depth ++ [']']
  | depth, v :: vs => ',' :: (L.line (depth + 1) ++ (layOut (depth + 1) v ++ layOutElems depth vs))

/-- The members after the first, with the closing brace. -/
def layOutMembers : Nat → List (String × Json) → List Char
  | depth, [] => L.line depth ++ ['}']
  | depth, (k, v) :: ms =>
    ',' :: (L.line (depth + 1) ++
      (quote k.toList ++ ':' :: (L.colon ++ (layOut (depth + 1) v ++ layOutMembers depth ms))))

end

/-- `JSON.stringify(value, null, gap)`, for a `gap` from 1 to 10. -/
def stringifyIndent (gap : Nat) (j : Json) : String := String.ofList (j.layOut T (.indent gap) 0)

example : stringifyIndent .safeIntegers 2 (.obj [("a", .arr [.null, .arr []])])
    = "\x7b\n  \"a\": [\n    null,\n    []\n  ]\n\x7d" := by decide

mutual

theorem layOut_compact : ∀ (depth : Nat) (v : Json), v.layOut T .compact depth = v.render T
  | _, .null => rfl
  | _, .bool true => rfl
  | _, .bool false => rfl
  | _, .num _ => rfl
  | _, .str _ => rfl
  | _, .arr [] => rfl
  | depth, .arr (v :: vs) => by
    rw [layOut, render, layOut_compact (depth + 1) v, layOutElems_compact depth vs]
    rfl
  | _, .obj [] => rfl
  | depth, .obj ((k, v) :: ms) => by
    rw [layOut, render, layOut_compact (depth + 1) v, layOutMembers_compact depth ms]
    rfl

theorem layOutElems_compact : ∀ (depth : Nat) (vs : List Json),
    layOutElems T .compact depth vs = renderElems T vs
  | _, [] => rfl
  | depth, v :: vs => by
    rw [layOutElems, renderElems, layOut_compact (depth + 1) v, layOutElems_compact depth vs]
    rfl

theorem layOutMembers_compact : ∀ (depth : Nat) (ms : List (String × Json)),
    layOutMembers T .compact depth ms = renderMembers T ms
  | _, [] => rfl
  | depth, (k, v) :: ms => by
    rw [layOutMembers, renderMembers, layOut_compact (depth + 1) v, layOutMembers_compact depth ms]
    rfl

end

end Anchr.Infra.Json
