import Transparency.Template.Reader

/-! The two templates of the resolve shader. -/
namespace Transparency.Template

/-- A template, with the pieces that it is read as. -/
structure Source where
  /-- What stands between the line feeds. -/
  lines : List String
  pieces : List Piece
  reads : read lines = some pieces

/-! ### The declarations of the fragment buffers -/

/-- The text. -/
def bufferLines : List String := [
    "// OIT accumulation buffers.",
    "//",
    "// oit_counter[0]      atomic fragment allocator (cleared to -1)",
    "// oit_counter[1 + p]  head of the fragment list of pixel p (-1 = empty)",
    "// oit_indices[n]      next fragment after fragment n (-1 = end of list)",
    "// oit_data[n]         premultiplied color of fragment n",
    "// oit_depth[n]        depth of fragment n",
    "//",
    "// Capacities: counter = w * h + 1, others = w * h * OIT_SAMPLES_PER_PIXEL.",
    "",
    "const OIT_SAMPLES_PER_PIXEL: i32 = \x7b\x7b samples_per_pixel \x7d\x7d;",
    "",
    "struct OitUniforms \x7b",
    "    screen_size: vec2<i32>,",
    "\x7d;",
    "",
    "$$ if oit_write",
    "@group(\x7b\x7b oit_group \x7d\x7d) @binding(\x7b\x7b counter_binding \x7d\x7d) var<storage, read_write> oit_counter: array<atomic<i32>>;",
    "@group(\x7b\x7b oit_group \x7d\x7d) @binding(\x7b\x7b index_binding \x7d\x7d) var<storage, read_write> oit_indices: array<i32>;",
    "@group(\x7b\x7b oit_group \x7d\x7d) @binding(\x7b\x7b data_binding \x7d\x7d) var<storage, read_write> oit_data: array<vec4<f32>>;",
    "@group(\x7b\x7b oit_group \x7d\x7d) @binding(\x7b\x7b depth_binding \x7d\x7d) var<storage, read_write> oit_depth: array<f32>;",
    "$$ else",
    "@group(\x7b\x7b oit_group \x7d\x7d) @binding(\x7b\x7b counter_binding \x7d\x7d) var<storage, read> oit_counter: array<i32>;",
    "@group(\x7b\x7b oit_group \x7d\x7d) @binding(\x7b\x7b index_binding \x7d\x7d) var<storage, read> oit_indices: array<i32>;",
    "@group(\x7b\x7b oit_group \x7d\x7d) @binding(\x7b\x7b data_binding \x7d\x7d) var<storage, read> oit_data: array<vec4<f32>>;",
    "@group(\x7b\x7b oit_group \x7d\x7d) @binding(\x7b\x7b depth_binding \x7d\x7d) var<storage, read> oit_depth: array<f32>;",
    "$$ endif",
    "@group(\x7b\x7b oit_group \x7d\x7d) @binding(\x7b\x7b uniform_binding \x7d\x7d) var<uniform> oit_uniforms: OitUniforms;",
    "",
    "fn oit_pixel_index(coord: vec2<i32>) -> i32 \x7b",
    "    return coord.y * oit_uniforms.screen_size.x + coord.x;",
    "\x7d",
    "",
    "fn oit_in_bounds(coord: vec2<i32>) -> bool \x7b",
    "    return all(coord >= vec2<i32>(0)) && all(coord < oit_uniforms.screen_size);",
    "\x7d",
    "$$ if oit_write",
    "",
    "// Appends a premultiplied fragment to the list of the pixel at `coord`.",
    "// Fragments beyond the buffer capacity are dropped.",
    "fn oit_write_fragment(coord: vec2<i32>, color: vec4<f32>, depth: f32) \x7b",
    "    if (!oit_in_bounds(coord)) \x7b",
    "        return;",
    "    \x7d",
    "    let capacity = oit_uniforms.screen_size.x * oit_uniforms.screen_size.y * OIT_SAMPLES_PER_PIXEL;",
    "    let slot = atomicAdd(&oit_counter[0], 1) + 1;",
    "    if (slot >= capacity) \x7b",
    "        return;",
    "    \x7d",
    "    oit_data[slot] = color;",
    "    oit_depth[slot] = depth;",
    "    let head = 1 + oit_pixel_index(coord);",
    "    oit_indices[slot] = atomicExchange(&oit_counter[head], slot);",
    "\x7d",
    "$$ endif",
    ""]

/-- The piece of a line that is text, with what stands at its end. -/
def linePiece (feed line : String) : Piece := .text (line ++ feed)

/-- The pieces of lines that are text. -/
def textPieces (lines : List String) : List Piece := lines.map (linePiece "\n")

/-- How a pass binds each of the four fragment buffers. -/
structure BufferForms where
  counter : String
  index : String
  data : String
  depth : String

/-- A pass that adds fragments binds the buffers in another form than one that only reads them. -/
def bufferForms : Bool → BufferForms
  | true => {
      counter := ") var<storage, read_write> oit_counter: array<atomic<i32>>;"
      index := ") var<storage, read_write> oit_indices: array<i32>;"
      data := ") var<storage, read_write> oit_data: array<vec4<f32>>;"
      depth := ") var<storage, read_write> oit_depth: array<f32>;" }
  | false => {
      counter := ") var<storage, read> oit_counter: array<i32>;"
      index := ") var<storage, read> oit_indices: array<i32>;"
      data := ") var<storage, read> oit_data: array<vec4<f32>>;"
      depth := ") var<storage, read> oit_depth: array<f32>;" }

/-- The declaration of a buffer: its group, its binding, and the rest of the line. -/
def declaration (binding : String) (line : Nat) (rest : String) : List Piece :=
  [.text "@group(", .print "oit_group" line, .text ") @binding(", .print binding line,
    linePiece "\n" rest]

/-- The declarations of the four fragment buffers, from a line on. -/
def formPieces (line : Nat) (forms : BufferForms) : List Piece :=
  declaration "counter_binding" line forms.counter ++
  declaration "index_binding" (line + 1) forms.index ++
  declaration "data_binding" (line + 2) forms.data ++
  declaration "depth_binding" (line + 3) forms.depth

/-- What the text is read as. -/
def bufferPieces : List Piece :=
  textPieces (bufferLines.take 10) ++
  [.text "const OIT_SAMPLES_PER_PIXEL: i32 = ", .print "samples_per_pixel" 11, linePiece "\n" ";"] ++
  textPieces ((bufferLines.drop 11).take 5) ++
  [.choose "oit_write" 17 (formPieces 18 (bufferForms true)) (formPieces 23 (bufferForms false))] ++
  declaration "uniform_binding" 28 ") var<uniform> oit_uniforms: OitUniforms;" ++
  textPieces ((bufferLines.drop 28).take 8) ++
  [.choose "oit_write" 37 (textPieces ((bufferLines.drop 37).take 17)) []]

-- reading goes deeper with every character of a line
set_option maxRecDepth 4000 in
theorem read_bufferLines : read bufferLines = some bufferPieces := by
  refine Spelled.read_eq (by unfold bufferLines; repeat constructor) ?_
  simp only [bufferPieces, formPieces, bufferForms, declaration, textPieces, linePiece, bufferLines,
    List.take, List.drop, List.map, List.nil_append, List.cons_append]
  rfl

def bufferSource : Source where
  lines := bufferLines
  pieces := bufferPieces
  reads := read_bufferLines

/-! ### The shader that resolves the fragments of each pixel -/

/-- The text. -/
def resolveLines : List String := [
    "// OIT resolve: gathers the fragment list of each pixel, sorts it by depth and",
    "// composites it front to back. Output is premultiplied and blended \"over\" the",
    "// existing target content by the fixed-function blend state.",
    "",
    "\x7b$ include \"oit_buffers\" $\x7d",
    "",
    "struct VertexOutput \x7b",
    "    @builtin(position) position: vec4<f32>,",
    "\x7d;",
    "",
    "@vertex",
    "fn vs_main(@builtin(vertex_index) vertex_index: u32) -> VertexOutput \x7b",
    "    var out: VertexOutput;",
    "    let uv = vec2<f32>(f32((vertex_index << 1u) & 2u), f32(vertex_index & 2u));",
    "    out.position = vec4<f32>(uv * 2.0 - 1.0, 0.0, 1.0);",
    "    return out;",
    "\x7d",
    "",
    "@fragment",
    "fn fs_main(in: VertexOutput) -> @location(0) vec4<f32> \x7b",
    "    let coord = vec2<i32>(in.position.xy);",
    "    if (!oit_in_bounds(coord)) \x7b",
    "        discard;",
    "    \x7d",
    "",
    "    var colors: array<vec4<f32>, OIT_SAMPLES_PER_PIXEL>;",
    "    var depths: array<f32, OIT_SAMPLES_PER_PIXEL>;",
    "    var count = 0;",
    "",
    "    var node = oit_counter[1 + oit_pixel_index(coord)];",
    "    loop \x7b",
    "        if (node < 0 || count >= OIT_SAMPLES_PER_PIXEL) \x7b",
    "            break;",
    "        \x7d",
    "        colors[count] = oit_data[node];",
    "        depths[count] = oit_depth[node];",
    "        count += 1;",
    "        node = oit_indices[node];",
    "    \x7d",
    "",
    "    if (count == 0) \x7b",
    "        discard;",
    "    \x7d",
    "",
    "    // Insertion sort, nearest first.",
    "    for (var i = 1; i < count; i += 1) \x7b",
    "        let c = colors[i];",
    "        let d = depths[i];",
    "        var j = i - 1;",
    "        loop \x7b",
    "            if (j < 0) \x7b",
    "                break;",
    "            \x7d",
    "            if (depths[j] <= d) \x7b",
    "                break;",
    "            \x7d",
    "            colors[j + 1] = colors[j];",
    "            depths[j + 1] = depths[j];",
    "            j -= 1;",
    "        \x7d",
    "        colors[j + 1] = c;",
    "        depths[j + 1] = d;",
    "    \x7d",
    "",
    "    var result = vec4<f32>(0.0);",
    "    for (var i = 0; i < count; i += 1) \x7b",
    "        result += (1.0 - result.a) * colors[i];",
    "    \x7d",
    "    return result;",
    "\x7d",
    ""]

/-- What the text is read as. -/
def resolvePieces : List Piece :=
  textPieces (resolveLines.take 4) ++ [.part "oit_buffers" 5] ++
  textPieces ((resolveLines.drop 5).take 64) ++ [linePiece "" "\x7d"]

set_option maxRecDepth 4000 in
theorem read_resolveLines : read resolveLines = some resolvePieces := by
  refine Spelled.read_eq (by unfold resolveLines; repeat constructor) ?_
  simp only [resolvePieces, textPieces, linePiece, resolveLines, List.take, List.drop, List.map,
    List.nil_append, List.cons_append]
  rfl

def resolveSource : Source where
  lines := resolveLines
  pieces := resolvePieces
  reads := read_resolveLines

/-! ### Names -/

/-- The files of the library. -/
def files : List (String × Source) :=
  [("oit_resolve.wgsl", resolveSource), ("chunks/oit_buffers.wgsl", bufferSource)]

/-- The parts of a path between slashes. -/
def segments (path : List Char) : List (List Char) := path.splitOn '/'

/-- The last part of a path, passing over empty parts and dots at its end; `..` names no file. -/
def fileName? (path : List Char) : Option (List Char) :=
  match ((segments path).filter fun part => part ≠ [] && part ≠ ['.']).getLast? with
  | some ['.', '.'] | none => none
  | some name => some name

/-- The extension of a path: what follows the last dot of its file name, unless that dot comes
first. -/
def extension? (path : List Char) : Option (List Char) := do
  let name ← fileName? path
  let after := (name.reverse.takeWhile (· ≠ '.')).reverse
  if after.length + 1 < name.length then some after else none

/-- The file that a template name stands for: the name itself if it has the extension of shaders in
any case of letters, and otherwise the name with that extension. -/
def fileOf (name : String) : List Char :=
  match extension? name.toList with
  | some found =>
    if found.map Char.toLower = "wgsl".toList then name.toList else name.toList ++ ".wgsl".toList
  | none => name.toList ++ ".wgsl".toList

/-- A path with slashes for backslashes. -/
def forwardSlashes (path : List Char) : List Char := path.map fun c => if c = '\\' then '/' else c

/-- The template with the given name. -/
def find? (name : String) : Option Source :=
  files.lookup (String.ofList (forwardSlashes (fileOf name)))

/-! ### Texts -/

/-- The template that is meant by the name of a part, in whatever template the part stands. -/
def joinPath (name : String) : String := "chunks/" ++ name

/-- How deep parts may stand in parts. -/
def maxDepth : Nat := 49

/-- The text of a part in a line of the named template; `inner` renders what parts stand for, unless
they stand in one another too deep. -/
def renderPart (inner : Option (String → Source → Except Failure String)) (template name : String)
    (line : Nat) : Except Failure String :=
  let file := joinPath name
  match find? file, inner with
  | none, _ => .error (.missingPart name template line)
  | some _, none => .error (.tooDeep template line)
  | some source, some inner =>
    match inner file source with
    | .ok content => .ok content
    | .error _ => .error (.brokenPart file template line)

/-- The text of a template, where parts may stand in one another as deep as this. -/
def renderSource (scope : String → Option Json.Value) :
    (depth : Nat) → (template : String) → Source → Except Failure String
  | 0, template, source => renderAll scope (renderPart none template) template source.pieces
  | depth + 1, template, source =>
    renderAll scope (renderPart (some (renderSource scope depth)) template) template source.pieces

/-- The text of the template with the given name, for the variables in scope. -/
def render (name : String) (scope : String → Option Json.Value) : Except Failure String :=
  match find? name with
  | none => .error (.unknown name)
  | some source => renderSource scope maxDepth name source

end Transparency.Template
