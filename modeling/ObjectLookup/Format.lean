import ObjectLookup.MediaType

/-! # Source formats

The formats that a resolver can report, with the media types and the file name extensions that
identify them. The first of each is the preferred one. `unknown` stands for every other format: it
has a media type and an extension to show, but nothing is ever recognised by them.
-/

namespace ObjectLookup

inductive Format where
  | avi | bmp | flv | gif | jp2 | jpeg | mov | mp4 | mpeg | pdf | png | tiff | webm | webp | unknown
deriving DecidableEq, Repr

namespace Format

/-- The formats that can be recognised, in the order in which they are tried. -/
def known : List Format :=
  [.avi, .bmp, .flv, .gif, .jp2, .jpeg, .mov, .mp4, .mpeg, .pdf, .png, .tiff, .webm, .webp]

theorem mem_known {f : Format} : f ∈ known ↔ f ≠ .unknown := by cases f <;> decide

def name : Format → String
  | .avi => "AVI"
  | .bmp => "BMP"
  | .flv => "FLV"
  | .gif => "GIF"
  | .jp2 => "JP2"
  | .jpeg => "JPEG"
  | .mov => "MOV"
  | .mp4 => "MP4"
  | .mpeg => "MPEG"
  | .pdf => "PDF"
  | .png => "PNG"
  | .tiff => "TIFF"
  | .webm => "WEBM"
  | .webp => "WEBP"
  | .unknown => "UNKNOWN"

/-- The media type that the format is shown with. -/
def mediaType : Format → MediaType
  | .avi => ⟨"video", "avi"⟩
  | .bmp => ⟨"image", "bmp"⟩
  | .flv => ⟨"video", "x-flv"⟩
  | .gif => ⟨"image", "gif"⟩
  | .jp2 => ⟨"image", "jp2"⟩
  | .jpeg => ⟨"image", "jpeg"⟩
  | .mov => ⟨"video", "quicktime"⟩
  | .mp4 => ⟨"video", "mp4"⟩
  | .mpeg => ⟨"video", "mpeg"⟩
  | .pdf => ⟨"application", "pdf"⟩
  | .png => ⟨"image", "png"⟩
  | .tiff => ⟨"image", "tiff"⟩
  | .webm => ⟨"video", "webm"⟩
  | .webp => ⟨"image", "webp"⟩
  | .unknown => ⟨"unknown", "unknown"⟩

/-- The other media types that identify the format. -/
def alternates : Format → List String
  | .avi => ["video/msvideo", "video/x-msvideo"]
  | .bmp => ["image/x-bmp", "image/x-ms-bmp"]
  | .jp2 => ["image/jpx", "image/jpm"]
  | .jpeg => ["image/pjpeg"]
  | .mov => ["video/x-quicktime"]
  | _ => []

def mediaTypes (f : Format) : List String := f.mediaType.text :: f.alternates

def extensions : Format → List String
  | .avi => ["avi"]
  | .bmp => ["bmp", "dib"]
  | .flv => ["flv"]
  | .gif => ["gif"]
  | .jp2 => ["jp2", "j2k", "jpx", "jpf"]
  | .jpeg => ["jpg", "jpeg", "jpe", "jif", "jfif"]
  | .mov => ["mov", "qt"]
  | .mp4 => ["mp4", "m4v"]
  | .mpeg => ["mpg", "mpeg"]
  | .pdf => ["pdf"]
  | .png => ["png"]
  | .tiff => ["tif", "ptif", "tiff"]
  | .webm => ["webm"]
  | .webp => ["webp"]
  | .unknown => ["unknown"]

/-- The extension that the format is shown with. -/
def extension (f : Format) : String := f.extensions.headD ""

/-- The format of a given name. -/
def ofName (s : String) : Except Failure Format :=
  match (Format.unknown :: known).find? (·.name == s) with
  | some f => .ok f
  | none => .error ⟨.other "KeyError" (Text.quoted s), []⟩

/-! ## Recognition -/

def ofMediaType (m : MediaType) : Format :=
  (known.find? fun f ↦ m.text ∈ f.mediaTypes).getD .unknown

/-- The format with the given extension, in any case and without its dot. -/
def ofExtension (extension : String) : Format :=
  let e := Text.lower extension
  (known.find? fun f ↦ e ∈ f.extensions).getD .unknown

/-- The extension of a name: the text behind the last dot of what follows the last slash. -/
def extensionOf? (name : List Char) : Option (List Char) :=
  match Text.cutLast? '.' (Text.afterLast '/' name) with
  | some (_, e) => if e = [] then none else some e
  | none => none

/-- The format that the extension of a name stands for. A dot in a directory never counts. -/
def ofFileName (name : String) : Format :=
  match extensionOf? name.toList with
  | some e => ofExtension (String.ofList e)
  | none => .unknown

example : ofFileName "images.v2/cats" = .unknown := by decide +kernel
example : ofFileName "cats.JPG" = .jpeg := by decide +kernel

end Format

end ObjectLookup
