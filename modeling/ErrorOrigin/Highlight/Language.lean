import ErrorOrigin.Text.Cut

/-!
# Languages

The languages code can be shown in.  A path tells its language by the extension of its file name;
what follows a `?` or a `#` is not part of the path.
-/

namespace ErrorOrigin

inductive Language where
  | typeScript
  | tsx
  | javaScript
  | jsx
  | vue
  | svelte
  | astro
  | css
  | scss
  | less
  | json
  | html
  | markdown
  | mdx
  | diff
  | text
deriving DecidableEq, Repr

namespace Language

open Text

def name : Language → String
  | typeScript => "typescript"
  | tsx => "tsx"
  | javaScript => "javascript"
  | jsx => "jsx"
  | vue => "vue"
  | svelte => "svelte"
  | astro => "astro"
  | css => "css"
  | scss => "scss"
  | less => "less"
  | json => "json"
  | html => "html"
  | markdown => "markdown"
  | mdx => "mdx"
  | diff => "diff"
  | text => "text"

/-- The language of an extension in lower case; plain text if there is none. -/
def ofExtension : String → Language
  | "ts" | "mts" | "cts" => typeScript
  | "tsx" => tsx
  | "js" | "mjs" | "cjs" => javaScript
  | "jsx" => jsx
  | "vue" => vue
  | "svelte" => svelte
  | "astro" => astro
  | "css" => css
  | "scss" => scss
  | "less" => less
  | "json" => json
  | "html" | "htm" => html
  | "md" => markdown
  | "mdx" => mdx
  | "diff" | "patch" => diff
  | _ => text

/-- The path without what follows it in an address. -/
def pathPart (s : List Char) : List Char :=
  s.takeWhile fun c => c ≠ '?' && c ≠ '#'

/-- What follows the last slash or backslash. -/
def fileName (s : List Char) : List Char :=
  (s.reverse.takeWhile fun c => c ≠ '/' && c ≠ '\\').reverse

/-- The language of a file name.  A name that only starts with a point has no extension. -/
def ofFileName (s : List Char) : Language :=
  match cutLast? '.' s with
  | some (stem, extension) =>
    if stem = [] then text else ofExtension (String.ofList (extension.map Char.toLower))
  | none => text

def ofPath (path : String) : Language :=
  ofFileName (fileName (pathPart path.toList))

end Language

end ErrorOrigin
