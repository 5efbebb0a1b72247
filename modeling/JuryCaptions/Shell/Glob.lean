import JuryCaptions.Shell.Expand
import JuryCaptions.System.Files
/-!
Pathname expansion.

A field with an unquoted `*`, `?` or `[` is a pattern for paths.
-/

namespace JuryCaptions
namespace Shell

def hasGlobChar (field : List (Char × Bool)) : Bool :=
  field.any fun (c, special) => special && (c == '*' || c == '?' || c == '[')

def globComponents (field : List (Char × Bool)) : List (List (Char × Bool)) :=
  field.foldr (fun (c, special) (acc : List (List (Char × Bool))) =>
    if c == '/' then [] :: acc
    else match acc with
      | first :: rest => ((c, special) :: first) :: rest
      | [] => [[(c, special)]]) [[]]

def globWalk (fs : Files) : List (List (Char × Bool)) → List (String × String) → List (String × String)
  | [], found => found
  | component :: rest, found =>
    let last := rest.isEmpty
    let next := found.flatMap fun (shown, dir) =>
      if !hasGlobChar component then
        let name := String.ofList (component.map (·.1))
        [(shown ++ name ++ (if last then "" else "/"), Path.join [dir, name])]
      else
        let dotted := component.head?.map (·.1) == some '.'
        let atoms := compile (component.length + 1) component
        let names : List (String × Entry) := match fs.list dir with
          | .ok entries =>
            (if dotted then [(".", Entry.dir), ("..", Entry.dir)] else []) ++
              entries.filter (fun (n, _) => dotted || !n.startsWith ".")
          | .error _ => []
        (names.filter fun (n, e) => matchAtoms atoms n.toList && (last || e == Entry.dir)).map fun (n, _) =>
          (shown ++ n ++ (if last then "" else "/"), Path.join [dir, n])
    globWalk fs rest next

def globPaths (fs : Files) (cwd : String) (field : List (Char × Bool)) : List String :=
  let parts := globComponents field
  let (start, parts) := match parts with
    | [] :: rest => (("/", "/"), rest)
    | _ => (("", cwd), parts)
  let wantsDir := parts.getLast? == some []
  let found := globWalk fs parts [start]
  let kept := found.filter fun (_, path) =>
    match fs.lookup path with
    | .ok .dir => true
    | .ok _ => !wantsDir
    | .error _ => false
  (kept.map (·.1)).mergeSort fun a b => decide (a ≤ b)

end Shell
end JuryCaptions
