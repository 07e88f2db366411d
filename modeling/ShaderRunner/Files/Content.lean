import ShaderRunner.Files.Jpeg
import ShaderRunner.Files.Path
import ShaderRunner.Files.Png
import ShaderRunner.Texture.Image

namespace ShaderRunner

inductive ImageFormat
  | png
  | jpeg
  | unread (name : String)
  deriving DecidableEq, Repr

inductive FileContent
  | text (s : String)
  | bytes (data : ByteArray)
  | image (format : ImageFormat) (size : Size)

inductive FileError
  | notFound
  | isDirectory
  | notDirectory
  | nameTooLong
  | nulInName
  | notText
  deriving DecidableEq, Repr

def FileError.message : FileError → String
  | notFound => "No such file or directory (os error 2)"
  | isDirectory => "Is a directory (os error 21)"
  | notDirectory => "Not a directory (os error 20)"
  | nameTooLong => "File name too long (os error 36)"
  | nulInName => "file name contained an unexpected NUL byte"
  | notText => "stream did not contain valid UTF-8"

inductive ImageError
  | file (e : FileError)
  | undetermined
  | unsupported (format : String)
  | malformed (format : ImageFormat)
  deriving DecidableEq, Repr

def ImageFormat.name : ImageFormat → String
  | png => "Png"
  | jpeg => "Jpeg"
  | unread name => name

def ImageError.message : ImageError → String
  | file e => e.message
  | undetermined => "The image format could not be determined"
  | unsupported format => s!"The image format {format} is not supported"
  | malformed format => s!"Format error decoding {format.name}"

structure Files where
  read : String → Except FileError FileContent

namespace Files

variable (f : Files)

def readText (path : String) : Except FileError String := do
  match ← f.read path with
  | .text s => return s
  | .bytes data =>
    match String.fromUTF8? data with
    | some s => return s
    | none => throw .notText
  | .image .. => throw .notText

/-- Formats of images by the endings of names; not all of them are read. -/
def formats : List (List String × ImageFormat) :=
  [(["png", "apng"], .png), (["jpg", "jpeg", "jfif"], .jpeg), (["avif"], .unread "Avif"), (["gif"], .unread "Gif"),
    (["webp"], .unread "WebP"), (["tif", "tiff"], .unread "Tiff"), (["tga"], .unread "Tga"), (["dds"], .unread "Dds"),
    (["bmp"], .unread "Bmp"), (["ico"], .unread "Ico"), (["hdr"], .unread "Hdr"), (["exr"], .unread "OpenExr"),
    (["pbm", "pam", "ppm", "pgm", "pnm"], .unread "Pnm"), (["ff"], .unread "Farbfeld"), (["qoi"], .unread "Qoi")]

def formatOf? (path : String) : Option ImageFormat := do
  let ending := String.ofList ((← Path.extension? path).map Char.toLower)
  (formats.find? fun f => f.1.contains ending).map (·.2)

def sizeAs? (format : ImageFormat) : FileContent → Option Size
  | .text _ => none
  | .image actual size => if actual = format then some size else none
  | .bytes data =>
    match format with
    | .png => Png.size? data
    | .jpeg => Jpeg.size? data
    | .unread _ => none

/-- The size of the image at a path, read as the format that the ending of its name stands for. A directory can be
opened, but not read. -/
def imageSize (path : String) : Except ImageError Size := do
  let found := f.read path
  match found with
  | .error .isDirectory | .ok _ => pure ()
  | .error e => throw (.file e)
  match formatOf? path, found with
  | none, _ => throw .undetermined
  | some (.unread name), _ => throw (.unsupported name)
  | some _, .error e => throw (.file e)
  | some format, .ok content =>
    match sizeAs? format content with
    | some size => return size
    | none => throw (.malformed format)

end Files

end ShaderRunner
