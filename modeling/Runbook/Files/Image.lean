import Runbook.Files.Store
import Runbook.Picture.Jpeg
import Runbook.Picture.Png
import Runbook.Text.Printable
/-!
# Saving and opening pictures

A picture is saved in the format its file extension names, compared without regard to
ASCII case. A path without an extension, or with one that names no image format, is
refused before any file is made. Otherwise the file is created first; then PNG writes the
picture's bytes unless it has no width or no height, JPEG writes gray pictures and
refuses pictures with an alpha channel, and the other known formats are not available,
so the file stays empty. Opening reads the file first, then decodes its bytes to gray
levels by the extension.
-/

namespace Runbook

/-- The image formats known by extension. -/
inductive ImageFormat where
  | png | jpeg | gif | webp | pnm | tiff | tga | dds | bmp | ico | hdr | openExr | farbfeld
  | avif | qoi
  deriving Repr, DecidableEq

/-- The name of an image format in messages. -/
def ImageFormat.name : ImageFormat → String
  | .png => "Png" | .jpeg => "Jpeg" | .gif => "Gif" | .webp => "WebP" | .pnm => "Pnm"
  | .tiff => "Tiff" | .tga => "Tga" | .dds => "Dds" | .bmp => "Bmp" | .ico => "Ico"
  | .hdr => "Hdr" | .openExr => "OpenExr" | .farbfeld => "Farbfeld" | .avif => "Avif"
  | .qoi => "Qoi"

/-- The image format an extension names. -/
def ImageFormat.ofExtension? (ext : String) : Option ImageFormat :=
  match String.ofList (ext.toList.map Char.toLower) with
  | "avif" => some .avif
  | "jpg" | "jpeg" | "jfif" => some .jpeg
  | "png" | "apng" => some .png
  | "gif" => some .gif
  | "webp" => some .webp
  | "tif" | "tiff" => some .tiff
  | "tga" => some .tga
  | "dds" => some .dds
  | "bmp" => some .bmp
  | "ico" => some .ico
  | "hdr" => some .hdr
  | "exr" => some .openExr
  | "pbm" | "pam" | "ppm" | "pgm" | "pnm" => some .pnm
  | "ff" => some .farbfeld
  | "qoi" => some .qoi
  | _ => none

/-- The extension of a path: what follows the last dot of its last name, unless that dot
begins the name. -/
def extension? (path : String) : Option String :=
  match (FileStore.names path).getLast? with
  | none => none
  | some name =>
    if name = ".." then none
    else
      let cs := name.toList
      match (List.range cs.length).reverse.find? (fun i => cs[i]? = some '.') with
      | some i => if i = 0 then none else some (String.ofList (cs.drop (i + 1)))
      | none => none

/-- How a picture's pixels are laid out when saved. -/
inductive PixelLayout where
  | gray
  | rgba
  deriving Repr, DecidableEq

/-- The PNG color type of a layout. -/
def PixelLayout.colorType : PixelLayout → Nat
  | .gray => 0
  | .rgba => 6

/-- A picture to save: its size, how its pixels are laid out, and its eight-bit samples
row by row. -/
structure Raster where
  width : Nat
  height : Nat
  layout : PixelLayout
  rows : List (List UInt8)
  deriving Repr, DecidableEq

/-- A gray picture as a raster. -/
def Picture.toRaster (p : Picture) : Raster :=
  ⟨p.width, p.height, .gray, p.rows.map fun r => r.map Nat.toUInt8⟩

/-- The gray levels of a gray raster. -/
def Raster.levels (r : Raster) : Picture :=
  ⟨r.width, r.height, r.rows.map fun row => row.map UInt8.toNat⟩

/-- Saves a picture at a path, or gives the reason it was not saved; a file may be left
behind even when saving fails. -/
def FileStore.savePicture (fs : FileStore) (path : String) (pic : Raster) :
    Except String FileStore × FileStore :=
  match extension? path with
  | none => (.error "The image format could not be determined", fs)
  | some ext =>
    match ImageFormat.ofExtension? ext with
    | none => (.error ("The file extension `." ++ Text.debugQuoteName ext ++ "` was not recognized as an image format"), fs)
    | some format =>
      match fs.write path (.bytes []) with
      | .error e => (.error e.message, fs)
      | .ok created =>
        let written (c : Content) : Except String FileStore × FileStore :=
          match created.write path c with
          | .ok done => (.ok done, done)
          | .error e => (.error e.message, created)
        match format with
        | .png =>
          if pic.width == 0 then (.error "Zero width not allowed", created)
          else if pic.height == 0 then (.error "Zero height not allowed", created)
          else written (.bytes (Png.encode pic.width pic.height pic.layout.colorType pic.rows))
        | .jpeg =>
          if pic.layout = .rgba then
            (.error "The encoder or decoder for Jpeg does not support the color type `Rgba8`", created)
          else written (.bytes (Jpeg.encodeGray pic.levels))
        | other => (.error ("The image format `" ++ other.name ++ "` is not supported"), created)

/-- Opens the picture at a path as gray levels, or gives the reason it cannot be
opened. -/
def FileStore.openPicture (fs : FileStore) (path : String) : Except String Picture :=
  match fs.read path with
  | .error e => .error e.message
  | .ok content =>
    match (extension? path).bind ImageFormat.ofExtension? with
    | none => .error "The image format could not be determined"
    | some .png => match content with
      | .bytes data => (Png.decode data).mapError fun e => "Format error decoding Png: " ++ e.message
    | some .jpeg => match content with
      | .bytes data => (Jpeg.decode data).mapError fun e => "Format error decoding Jpeg: " ++ e.message
    | some other => .error ("The image format " ++ other.name ++ " is not supported")

/-- Whether the picture at a path opens, and its size when it does. -/
def FileStore.pictureSize? (fs : FileStore) (path : String) : Option (Nat × Nat) :=
  match fs.openPicture path with
  | .ok pic => some (pic.width, pic.height)
  | .error _ => none

end Runbook
