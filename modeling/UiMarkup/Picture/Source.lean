import UiMarkup.Fault
import UiMarkup.Picture.Base64
import UiMarkup.Picture.Png
import UiMarkup.Text.Ascii
import UiMarkup.Text.Blank
import UiMarkup.Text.Cut

namespace UiMarkup.Picture

/-- How files of each known format start; the bytes that are `none` do not matter. -/
def starts : List (List (Option UInt8) × String) := [
  (Png.signature.map some, "Png"),
  ([some 0xFF, some 0xD8, some 0xFF], "Jpeg"),
  ([some 0x47, some 0x49, some 0x46, some 0x38, some 0x39, some 0x61], "Gif"),
  ([some 0x47, some 0x49, some 0x46, some 0x38, some 0x37, some 0x61], "Gif"),
  ([some 0x52, some 0x49, some 0x46, some 0x46, none, none, none, none, some 0x57, some 0x45,
    some 0x42, some 0x50], "WebP"),
  ([some 0x4D, some 0x4D, some 0x00, some 0x2A], "Tiff"),
  ([some 0x49, some 0x49, some 0x2A, some 0x00], "Tiff"),
  ([some 0x44, some 0x44, some 0x53, some 0x20], "Dds"),
  ([some 0x42, some 0x4D], "Bmp"),
  ([some 0x00, some 0x00, some 0x01, some 0x00], "Ico"),
  ([some 0x23, some 0x3F, some 0x52, some 0x41, some 0x44, some 0x49, some 0x41, some 0x4E, some 0x43,
    some 0x45], "Hdr"),
  ([some 0x00, some 0x00, none, none, some 0x66, some 0x74, some 0x79, some 0x70, some 0x61, some 0x76,
    some 0x69, some 0x66], "Avif"),
  ([some 0x76, some 0x2F, some 0x31, some 0x01], "OpenExr"),
  ([some 0x71, some 0x6F, some 0x69, some 0x66], "Qoi"),
  ([some 0x50, some 0x31], "Pnm"), ([some 0x50, some 0x32], "Pnm"), ([some 0x50, some 0x33], "Pnm"),
  ([some 0x50, some 0x34], "Pnm"), ([some 0x50, some 0x35], "Pnm"), ([some 0x50, some 0x36], "Pnm"),
  ([some 0x50, some 0x37], "Pnm"),
  ([some 0x66, some 0x61, some 0x72, some 0x62, some 0x66, some 0x65, some 0x6C, some 0x64],
    "Farbfeld")]

def startsLike : List (Option UInt8) → List UInt8 → Bool
  | [], _ => true
  | _ :: _, [] => false
  | wanted :: pattern, byte :: bytes =>
    (match wanted with
    | some value => value == byte
    | none => true) && startsLike pattern bytes

def extensions : List (String × String) := [
  ("png", "Png"), ("apng", "Png"), ("jpg", "Jpeg"), ("jpeg", "Jpeg"), ("jfif", "Jpeg"),
  ("gif", "Gif"), ("webp", "WebP"), ("tif", "Tiff"), ("tiff", "Tiff"), ("tga", "Tga"),
  ("dds", "Dds"), ("bmp", "Bmp"), ("ico", "Ico"), ("hdr", "Hdr"), ("exr", "OpenExr"),
  ("pbm", "Pnm"), ("pam", "Pnm"), ("ppm", "Pnm"), ("pgm", "Pnm"), ("pnm", "Pnm"),
  ("ff", "Farbfeld"), ("avif", "Avif"), ("qoi", "Qoi")]

def decodeAs (format : String) (bytes : List UInt8) : Except FormatFault Picture :=
  if format = "Png" then Png.decode bytes else .error (.unsupported format)

def decode (bytes : List UInt8) : Except FormatFault Picture :=
  match starts.find? fun (pattern, _) => startsLike pattern bytes with
  | some (_, format) => decodeAs format bytes
  | none => .error .undetermined

def ofAddress (address : List Char) : Except ImageFault Picture :=
  match Text.cutAround? "base64,".toList address with
  | none => .error .notBase64
  | some (_, payload) =>
    match Base64.decode (String.ofList (Text.trim payload)).toUTF8.toList with
    | .error fault => .error (.base64 fault)
    | .ok bytes =>
      match decode bytes with
      | .ok picture => .ok picture
      | .error fault => .error (.format fault)

inductive Opened where
  | file (bytes : List UInt8)
  | directory
  | failed (fault : FileFault)

def formatOf (extension : Option String) : Except FormatFault String :=
  match extension with
  | none | some "" => .error .undetermined
  | some ext =>
    match extensions.lookup (Text.lower ext) with
    | some format => .ok format
    | none => .error (.unknownExtension ext)

def ofFile (extension : Option String) : Opened → Except FormatFault Picture
  | .failed fault => .error (.unreadable fault)
  | .directory => do
    let format ← formatOf extension
    if format = "Png" then throw (.unreadable .isDirectory) else throw (.unsupported format)
  | .file bytes => do decodeAs (← formatOf extension) bytes

end UiMarkup.Picture
